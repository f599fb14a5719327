import Settle.Unicode.Age
import Settle.Unicode.Property

/-!
# Names of classes

A class of characters is named by a general category, a script or a property, or by a property and
its value with an equals sign or a colon between. Names are compared loosely: case, blanks, hyphens
and underscores do not count, nor does a leading `is`.
-/

namespace Settle.Unicode

/-- The characters of a name that count, in lower case. -/
def significant (cs : List Char) : List Char :=
  (cs.filter fun c => c.toNat < 128 && c != ' ' && c != '_' && c != '-').map Char.toLower

/-- A name as it is compared. The abbreviation of a comment's property is not a `c` after `is`. -/
def looseName (cs : List Char) : List Char :=
  match cs with
  | i :: s :: rest =>
    if (i = 'i' ∨ i = 'I') ∧ (s = 's' ∨ s = 'S') then
      if significant rest = ['c'] then ['i', 's', 'c'] else significant rest
    else significant cs
  | _ => significant cs

def isNamed (name : List Char) (names : List String) : Bool :=
  names.any fun n => looseName n.toList == name

def categoryAliases : List (String × List String) :=
  [("cntrl", ["Cc"]), ("digit", ["Nd"]), ("punct", ["Pc", "Pd", "Ps", "Pe", "Pi", "Pf", "Po"]),
   ("Combining_Mark", ["Mn", "Mc", "Me"])]

/-- The general categories and groups of them that a name may mean: names and members. -/
def namedCategories : List (List String × List String) :=
  categoryNames.map (fun (tag, long) => ([tag, long], [tag]))
    ++ categoryGroups.map (fun (short, long, tags) => ([short, long], tags))
    ++ categoryAliases.map fun (name, tags) => ([name], tags)

def categoryNamed? (name : List Char) : Option CharSet :=
  if isNamed name ["Any"] then some .full
  else if isNamed name ["ASCII"] then some (.range 0 0x7F)
  else if isNamed name ["Assigned"] then some (inCategories ["Cn"]).compl
  else (namedCategories.find? fun (names, _) => isNamed name names).map fun (_, tags) =>
    inCategories tags

def scriptAliases : List (String × String) := [("Qaac", "Copt"), ("Qaai", "Zinh")]

def scriptNamed? (name : List Char) : Option String :=
  ((scriptNames.find? fun (code, long) => isNamed name [code, long]).map (·.1)).or
    ((scriptAliases.find? fun (code, _) => isNamed name [code]).map (·.2))

def listed? (sets : List (String × String × CharSet)) (name : List Char) : Option CharSet :=
  (sets.find? fun (short, long, _) => isNamed name [short, long]).map (·.2.2)

/-- The code points with a property; the one for blanks has a third name. -/
def propertyNamed? (name : List Char) : Option CharSet :=
  if isNamed name ["space"] then some blanks else listed? properties name

def classNamed? (name : List Char) : Option CharSet :=
  ((propertyNamed? name).or (categoryNamed? name)).or ((scriptNamed? name).map inScript)

def classWithValue? (property value : List Char) : Option CharSet :=
  if isNamed property ["gc", "General_Category"] then categoryNamed? value
  else if isNamed property ["sc", "Script"] then (scriptNamed? value).map inScript
  else if isNamed property ["scx", "Script_Extensions"] then (scriptNamed? value).map usedWith
  else if isNamed property ["age"] then
    (ageNames.find? fun (edition, other) => isNamed value [edition, other]).bind fun (edition, _) =>
      assignedIn? edition
  else if isNamed property ["gcb", "Grapheme_Cluster_Break"] then listed? graphemeClasses value
  else if isNamed property ["wb", "Word_Break"] then listed? wordClasses value
  else if isNamed property ["sb", "Sentence_Break"] then listed? sentenceClasses value
  else none

/-- What comes before and after the first place where `mark` stands in a text. -/
def splitAt? (mark : List Char) : List Char → Option (List Char × List Char)
  | [] => none
  | c :: cs =>
    if mark.isPrefixOf (c :: cs) then some ([], (c :: cs).drop mark.length)
    else (splitAt? mark cs).map fun (before, after) => (c :: before, after)

/-- The class that a text means, one name or a property and its value, and whether its complement is
meant, as the sign `!=` says. -/
def class? (text : List Char) : Option (CharSet × Bool) :=
  match splitAt? ['!', '='] text with
  | some (p, v) => (classWithValue? (looseName p) (looseName v)).map (·, true)
  | none =>
    match (splitAt? [':'] text).or (splitAt? ['='] text) with
    | some (p, v) => (classWithValue? (looseName p) (looseName v)).map (·, false)
    | none => (classNamed? (looseName text)).map (·, false)

end Settle.Unicode

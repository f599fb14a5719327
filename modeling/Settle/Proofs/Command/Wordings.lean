import Settle.Proofs.Command.Classes
import Settle.Proofs.Text.Occurrence

/-!
# Failures with fixed wordings

The failures that rehearsals give for an absent object and for an unknown kind put the arguments of
the command into fixed words. No marker of an unknown kind can begin in the words before the
arguments or end in those behind them. So an object is classed as absent unless its kind is classed
as unknown by the arguments alone, read with the blanks between them (`wordings_classed`).
-/

namespace Settle.CommandFailure

open FailureClass (markers classify classifyBy)

/-- What is said of an absent object before the arguments of the command. -/
def absentBefore : String := "Error from server (NotFound): "

def absentBehind : String := " not found"

theorem absent_kind (i : Invocation) :
    (absent i).kind = classify (absentBefore ++ " ".intercalate i.args ++ absentBehind) :=
  ofExit_kind i (some 1) _

/-- The words around the arguments give no part of a marker of an unknown kind. -/
theorem contains_between {m : String} (h : m ∈ markers .unknownKind) (said : String) :
    Text.contains (absentBefore ++ said ++ absentBehind) m = Text.contains said m := by
  have edges : ∀ m ∈ markers .unknownKind,
      Text.mayBeginIn m.toList absentBefore.toList = false ∧
        Text.mayBeginIn m.toList.reverse absentBehind.toList.reverse = false := by
    decide +kernel
  obtain ⟨before, behind⟩ := edges m h
  rw [Bool.eq_iff_iff, Text.contains_iff_isInfix, Text.contains_iff_isInfix, String.toList_append,
    Text.infix_append_iff_left behind, String.toList_append, Text.infix_append_iff_right before]

theorem any_of_opening {k : FailureClass} {opening : String}
    (marked : (markers k).any (Text.contains opening) = true) (rest : String) :
    (markers k).any (Text.contains (opening ++ rest)) = true := by
  obtain ⟨m, hm, found⟩ := List.any_eq_true.mp marked
  have around := Text.contains_append "" rest found
  rw [String.empty_append] at around
  exact List.any_eq_true.mpr ⟨m, hm, around⟩

theorem any_notFound_between (said : String) :
    (markers .notFound).any (Text.contains (absentBefore ++ said ++ absentBehind)) = true := by
  have marked : (markers .notFound).any (Text.contains absentBefore) = true := by decide +kernel
  rw [String.append_assoc]
  exact any_of_opening marked (said ++ absentBehind)

theorem unregistered_kind (i : Invocation) : (unregistered i).kind = .unknownKind := by
  have marked : (markers .unknownKind).any
      (Text.contains "error: the server doesn't have a resource type \"") = true := by
    decide +kernel
  rw [unregistered, ofExit_kind, String.append_assoc, classify, classifyBy, if_pos]
  exact any_of_opening marked (i.args.headD "" ++ "\"")

/-- Whatever the arguments of a command are, the failure that is worded for an unknown kind is
classed as one. The failure that is worded for an absent object is classed as one, too, unless the
arguments with single blanks between them hold a marker of an unknown kind. -/
theorem wordings_classed (i : Invocation) :
    (unregistered i).kind = .unknownKind ∧
      (absent i).kind =
        if ∃ m ∈ markers .unknownKind, Text.contains (" ".intercalate i.args) m = true
        then .unknownKind else .notFound := by
  refine ⟨unregistered_kind i, ?_⟩
  let said := " ".intercalate i.args
  have unknown : (markers .unknownKind).any
        (Text.contains (absentBefore ++ said ++ absentBehind)) = true ↔
      ∃ m ∈ markers .unknownKind, Text.contains said m = true := by
    rw [List.any_eq_true]
    exact exists_congr fun m => and_congr_right fun hm => by rw [contains_between hm]
  rw [absent_kind, classify, classifyBy, any_notFound_between, if_pos rfl]
  exact if_congr unknown rfl rfl

/-- The marker may be spread over several arguments. -/
example : (absent ⟨.get, .admin, none, ["no", "matches for", "kind"]⟩).kind = .unknownKind := by
  decide +kernel

end Settle.CommandFailure

import Settle.CommandLine.Help
import Settle.Proofs.Template.Parameters

/-!
# Parameters on the command line

A parameter can be given in five ways (`ParamArgs`), and parameters, the source and the flag for
processing in any order (`Spells`). They are read as what they are, parameters in the order in which
they were given (`Request.read_apply`).
-/

namespace Settle.CommandLine

/-- The ways to give a parameter. After a space its text cannot start with a hyphen, and right after
the letter it cannot start with an equals sign. -/
inductive ParamArgs (text : String) : List String → Prop where
  | equals : ParamArgs text ["--param=" ++ text]
  | next (h : text.toList.head? ≠ some '-') : ParamArgs text ["--param", text]
  | letter (h : text.toList.head? ≠ some '=') : ParamArgs text ["-p" ++ text]
  | letterEquals : ParamArgs text ["-p=" ++ text]
  | letterNext (h : text.toList.head? ≠ some '-') : ParamArgs text ["-p", text]

/-- Arguments after the name of the task, and what they give, in order: parameters, the flag for
processing, and the source, which comes after two hyphens or does not start with one. -/
inductive Spells : List String → Given → Prop where
  | nil : Spells [] []
  | param {text : String} {args rest : List String} {g : Given} :
    ParamArgs text args → Spells rest g → Spells (args ++ rest) (("param", text) :: g)
  | process {rest : List String} {g : Given} :
    Spells rest g → Spells ("--process" :: rest) (("process", "") :: g)
  | source {source : String} {rest : List String} {g : Given} :
    source.toList.head? ≠ some '-' → Spells rest g →
    Spells (source :: rest) (("template", source) :: g)
  | last (source : String) : Spells ["--", source] [("template", source)]

def applyLevel : Level := levelOf (some "apply")

/-! ## What was given -/

namespace Given

variable {g : Given} {name : String}

theorem value?_eq_head? : g.value? name = (g.values name).head? := by
  induction g with
  | nil => rfl
  | cons p g ih =>
    obtain ⟨n, v⟩ := p
    by_cases h : n = name
    · subst h
      simp [value?, values]
    · have other : (name == n) = false := beq_eq_false_iff_ne.mpr (Ne.symm h)
      simpa [value?, values, List.lookup_cons, other, h] using ih

theorem has_eq_isSome : g.has name = (g.values name).head?.isSome := by
  rw [← value?_eq_head?]
  rfl

theorem values_append (g g' : Given) :
    values (g ++ g') name = g.values name ++ g'.values name := by
  simp [values]

theorem values_snoc {other : String} (value : String) (h : name ≠ other) :
    values (g ++ [(name, value)]) other = g.values other := by
  simp [values, h]

theorem add_param {text : String} (equals : '=' ∈ text.toList) :
    g.add paramOption text = .ok (g ++ [("param", text)]) := by
  have allowed : (Text.splitOnce '=' text).isSome = true := by
    rw [Option.isSome_iff_ne_none, ne_eq, Text.splitOnce_eq_none]
    exact not_not_intro equals
  simp [add, paramOption, allowed]

end Given

/-! ## Reading -/

namespace Level

theorem formOf_of_head {arg : String} (h : arg.toList.head? ≠ some '-') :
    formOf arg = .operand := by
  unfold formOf
  split
  · rename_i hyphens
    simp [hyphens] at h
  · rename_i hyphens
    simp [hyphens] at h
  · rfl
  · rename_i hyphens
    simp [hyphens] at h
  · rfl

theorem nextValue_of_head {value : String} (h : value.toList.head? ≠ some '-')
    (rest : List String) : nextValue (value :: rest) = .ok (value, rest) := by
  rw [nextValue, if_neg fun hyphen => h hyphen.1]

theorem find?_param : applyLevel.options.find? (·.name == "param") = some paramOption := rfl

theorem find?_letter : applyLevel.options.find? (·.letter == some 'p') = some paramOption := rfl

section

variable {text : String} (equals : '=' ∈ text.toList) (g : Given) (rest : List String)

include equals

theorem readLong_attached :
    applyLevel.readLong g ("param=".toList ++ text.toList) rest =
      .ok (.ok (g ++ [("param", text)]), rest) := by
  have name : String.ofList (("param=".toList ++ text.toList).takeWhile (· ≠ '=')) = "param" := rfl
  have attached : ("param=".toList ++ text.toList).dropWhile (· ≠ '=') = '=' :: text.toList := rfl
  have arity : paramOption.arity = .many := rfl
  unfold readLong
  simp only [name, attached, find?_param, arity, String.ofList_toList, Given.add_param equals]
  rfl

theorem readLong_next (h : text.toList.head? ≠ some '-') :
    applyLevel.readLong g "param".toList (text :: rest) =
      .ok (.ok (g ++ [("param", text)]), rest) := by
  have name : String.ofList ("param".toList.takeWhile (· ≠ '=')) = "param" := rfl
  have attached : "param".toList.dropWhile (· ≠ '=') = [] := rfl
  have arity : paramOption.arity = .many := rfl
  unfold readLong
  simp only [name, attached, find?_param, arity, nextValue_of_head h, bind, Except.bind,
    Given.add_param equals]
  rfl

theorem readLetters_attached {cs : List Char} (some : cs ≠ [])
    (dropped : dropEquals cs = text.toList) :
    applyLevel.readLetters g rest ('p' :: cs) = .ok (.ok (g ++ [("param", text)]), rest) := by
  have arity : paramOption.arity = .many := rfl
  have some : cs.isEmpty = false := by simpa using some
  rw [readLetters]
  simp only [find?_letter, arity, some, dropped, String.ofList_toList, Given.add_param equals]
  rfl

theorem readLetters_next (h : text.toList.head? ≠ some '-') :
    applyLevel.readLetters g (text :: rest) ['p'] = .ok (.ok (g ++ [("param", text)]), rest) := by
  have arity : paramOption.arity = .many := rfl
  rw [readLetters]
  simp only [find?_letter, arity, List.isEmpty_nil, nextValue_of_head h, bind, Except.bind,
    Given.add_param equals]
  rfl

theorem readFrom_param {args : List String} (given : ParamArgs text args) (taken fuel : Nat) :
    applyLevel.readFrom taken g (fuel + 1) (args ++ rest) =
      applyLevel.readFrom taken (g ++ [("param", text)]) fuel rest := by
  cases given with
  | equals =>
    have form : formOf ("--param=" ++ text) = .long ("param=".toList ++ text.toList) := by
      rw [formOf, String.toList_append]
      rfl
    rw [List.singleton_append, readFrom, form]
    simp only [readLong_attached equals]
    rfl
  | next h =>
    have form : formOf "--param" = .long "param".toList := rfl
    rw [List.cons_append, List.singleton_append, readFrom, form]
    simp only [readLong_next equals g rest h]
    rfl
  | letter h =>
    have form : formOf ("-p" ++ text) = .letters ('p' :: text.toList) := by
      rw [formOf, String.toList_append]
      rfl
    have some : text.toList ≠ [] := List.ne_nil_of_mem equals
    have dropped : dropEquals text.toList = text.toList := by
      unfold dropEquals
      split
      · rename_i first
        simp [first] at h
      · rfl
    rw [List.singleton_append, readFrom, form]
    simp only [readLetters_attached equals g rest some dropped]
    rfl
  | letterEquals =>
    have form : formOf ("-p=" ++ text) = .letters ('p' :: '=' :: text.toList) := by
      rw [formOf, String.toList_append]
      rfl
    rw [List.singleton_append, readFrom, form]
    simp only [readLetters_attached equals g rest (List.cons_ne_nil '=' text.toList) rfl]
    rfl
  | letterNext h =>
    have form : formOf "-p" = .letters ['p'] := rfl
    rw [List.cons_append, List.singleton_append, readFrom, form]
    simp only [readLetters_next equals g rest h]
    rfl

end

theorem readLong_process {g : Given} (first : g.values "process" = []) (rest : List String) :
    applyLevel.readLong g "process".toList rest = .ok (.ok (g ++ [("process", "")]), rest) := by
  have name : String.ofList ("process".toList.takeWhile (· ≠ '=')) = "process" := rfl
  have attached : "process".toList.dropWhile (· ≠ '=') = [] := rfl
  have found : applyLevel.options.find? (·.name == "process") = some processOption := rfl
  have arity : processOption.arity = .flag := rfl
  have once : g.has processOption.name = false := by
    rw [Given.has_eq_isSome]
    exact congrArg (·.head?.isSome) first
  unfold readLong
  simp only [name, attached, found, arity, Given.add, once]
  rfl

theorem readOperand_source {source : String} (some : source ≠ "") {g : Given}
    (first : g.values "template" = []) :
    applyLevel.readOperand (g.values "template").length g source =
      .ok (g ++ [("template", source)]) := by
  have operand : applyLevel.operands[0]? = Option.some templateOperand := rfl
  have allowed : nonEmpty source = true := by simpa [nonEmpty] using some
  rw [first]
  simp only [readOperand, List.length_nil, operand]
  exact if_pos allowed

end Level

/-- What is given makes a request: parameters with equals signs, one source, and the flag for
processing once at most. -/
structure Deploys (g : Given) (source : String) : Prop where
  params : ∀ text ∈ g.values "param", '=' ∈ text.toList
  sources : g.values "template" = [source]
  nonEmpty : source ≠ ""
  once : (g.values "process").length ≤ 1

namespace Deploys

variable {g g' : Given} {source value : String}

theorem source_first (h : Deploys (g ++ ("template", value) :: g') source) :
    g.values "template" = [] ∧ value = source := by
  have sources := h.sources
  rw [Given.values_append] at sources
  have rest : Given.values (("template", value) :: g') "template" =
    value :: g'.values "template" := rfl
  rw [rest, List.append_eq_singleton_iff] at sources
  rcases sources with ⟨none, one⟩ | ⟨-, none⟩
  · exact ⟨none, (List.cons.inj one).1⟩
  · cases none

theorem flag_first (h : Deploys (g ++ ("process", "") :: g') source) :
    g.values "process" = [] := by
  have once := h.once
  rw [Given.values_append, List.length_append] at once
  have rest : Given.values (("process", "") :: g') "process" = "" :: g'.values "process" := rfl
  rw [rest, List.length_cons] at once
  exact List.length_eq_zero_iff.mp (by omega)

theorem param_equals (h : Deploys (g ++ ("param", value) :: g') source) : '=' ∈ value.toList := by
  refine h.params value ?_
  rw [Given.values_append]
  exact List.mem_append_right _ List.mem_cons_self

end Deploys

/-- Arguments are read as what they spell, behind what was given before. -/
theorem Spells.readFrom {args : List String} {g' : Given} (spells : Spells args g')
    {source : String} {g : Given} (deploys : Deploys (g ++ g') source) {fuel : Nat}
    (hf : args.length ≤ fuel) :
    applyLevel.readFrom (g.values "template").length g fuel args = .ok (g ++ g') := by
  induction spells generalizing g fuel with
  | nil =>
    rw [List.append_nil]
    cases fuel <;> rfl
  | @param text args rest g' given _ ih =>
    have some : 1 ≤ args.length := by cases given <;> simp
    rw [List.length_append] at hf
    obtain ⟨fuel, rfl⟩ : ∃ n, fuel = n + 1 := ⟨fuel - 1, by omega⟩
    rw [Level.readFrom_param deploys.param_equals g rest given]
    rw [List.append_cons] at deploys
    have read := ih deploys (show rest.length ≤ fuel by omega)
    rwa [Given.values_snoc text (by decide), ← List.append_cons] at read
  | @process rest g' _ ih =>
    obtain ⟨fuel, rfl⟩ : ∃ n, fuel = n + 1 := ⟨fuel - 1, by simp at hf; omega⟩
    have form : Level.formOf "--process" = .long "process".toList := rfl
    rw [Level.readFrom, form]
    simp only [Level.readLong_process deploys.flag_first]
    rw [List.append_cons] at deploys
    have read := ih deploys (Nat.le_of_succ_le_succ hf)
    rw [Given.values_snoc "" (by decide), ← List.append_cons] at read
    exact read
  | @source s rest g' head _ ih =>
    obtain ⟨fuel, rfl⟩ : ∃ n, fuel = n + 1 := ⟨fuel - 1, by simp at hf; omega⟩
    obtain ⟨first, rfl⟩ := deploys.source_first
    rw [Level.readFrom, Level.formOf_of_head head]
    simp only [Level.readOperand_source deploys.nonEmpty first]
    rw [List.append_cons] at deploys
    have read := ih deploys (Nat.le_of_succ_le_succ hf)
    rw [Given.values_append, first, ← List.append_cons] at read
    rw [first]
    exact read
  | last s =>
    obtain ⟨fuel, rfl⟩ : ∃ n, fuel = n + 1 := ⟨fuel - 1, by simp at hf; omega⟩
    obtain ⟨first, rfl⟩ := deploys.source_first
    have form : Level.formOf "--" = .hyphens := rfl
    rw [Level.readFrom, form]
    simp only [Level.readOperands, Level.readOperand_source deploys.nonEmpty first]
    rfl

theorem Spells.value?_other {args : List String} {g : Given} (spells : Spells args g)
    {name : String} (h : name ∉ ["param", "process", "template"]) : g.value? name = none := by
  have other : ∀ n ∈ ["param", "process", "template"], (name == n) = false := fun n hn =>
    beq_eq_false_iff_ne.mpr fun same => h (same ▸ hn)
  have last (n value : String) (g : Given) (hn : n ∈ ["param", "process", "template"]) :
      Given.value? ((n, value) :: g) name = g.value? name := by
    simp [Given.value?, List.lookup_cons, other n hn]
  induction spells with
  | nil => rfl
  | param _ _ ih => rw [last _ _ _ (by simp), ih]
  | process _ ih => rw [last _ _ _ (by simp), ih]
  | source _ _ ih => rw [last _ _ _ (by simp), ih]
  | last s =>
    rw [last _ _ _ (by simp)]
    rfl

theorem Spells.read {args : List String} {g : Given} (spells : Spells args g) {source : String}
    (deploys : Deploys g source) : applyLevel.read args = .ok g := by
  have fuelled : applyLevel.readFrom 0 [] args.length args = .ok g :=
    spells.readFrom (g := []) deploys (Nat.le_refl _)
  have operands : applyLevel.operands = [templateOperand] := rfl
  have given : g.has "template" = true := by
    rw [Given.has_eq_isSome, deploys.sources]
    rfl
  have all : (applyLevel.operands.all fun o => g.has o.name) = true := by
    rw [operands]
    exact Bool.and_eq_true_iff.mpr ⟨given, rfl⟩
  rw [Level.read, fuelled]
  exact if_pos all

/-- A command line of such arguments is read as a request to deploy the source, with the parameters
in the order in which they are given. -/
theorem Request.read_apply {args : List String} {g : Given} (spells : Spells args g)
    {source : String} (deploys : Deploys g source) {config : Option String}
    (named : config ≠ some "") :
    Request.read config ("apply" :: args) =
      .ok { config, scope := none, account := .admin, format := .text
            task := .apply source (Template.paramsOf (g.values "param")) (g.has "process") none
              {} } := by
  have outer : outerLevel.readUntilOperand (.ok []) ("apply" :: args).length ("apply" :: args) =
      .ok (.ok [], "apply", args) := rfl
  have level : taskLevel? "apply" = some applyLevel := rfl
  have other (name : String) (h : name ∉ ["param", "process", "template"]) :
      g.value? name = none := spells.value?_other h
  have operand : g.operand "template" = source := by
    rw [Given.operand, Given.value?_eq_head?, deploys.sources]
    rfl
  have task : task? "apply" g =
      some (.apply source (Template.paramsOf (g.values "param")) (g.has "process") none {}) := by
    show some (Task.apply (g.operand "template") (Template.paramsOf (g.values "param"))
      (g.has "process") (g.value? "wait-for") g.pacing) = _
    rw [operand, Given.pacing, other _ (by decide), other _ (by decide), other _ (by decide)]
    rfl
  have help : "apply" ≠ "help" := by decide
  rw [Request.read, outer]
  simp only [bind, Except.bind, Request.readTask, if_neg help, level, spells.read deploys, task]
  simp only [Request.of, other "namespace" (by decide), other "as-user" (by decide),
    other "format" (by decide)]
  exact if_neg named

end Settle.CommandLine

import Settle.Json.Value

/-!
# Kinds of JSON values

What is read as a value of some kind is a value of just that kind; nothing is converted. The value
may have been looked up before, and may be absent.
-/

namespace Settle.Json.Value

variable {found : Option Value}

theorem bind_asArray?_eq_some_iff {items : List Value} :
    found.bind asArray? = some items ↔ found = some (.array items) := by
  cases found with
  | none => simp
  | some v => cases v <;> simp [asArray?]

theorem bind_asBool?_eq_some_iff {b : Bool} :
    found.bind asBool? = some b ↔ found = some (.bool b) := by
  cases found with
  | none => simp
  | some v => cases v <;> simp [asBool?]

theorem bind_asString?_eq_some_iff {s : String} :
    found.bind asString? = some s ↔ found = some (.string s) := by
  cases found with
  | none => simp
  | some v => cases v <;> simp [asString?]

theorem asNat?_number_eq_some_iff {m : Numeral} {n : Nat} :
    (Value.number m).asNat? = some n ↔ n < Nat.pow 2 64 ∧ m = .whole n := by
  cases m with
  | real r => simp [asNat?]
  | whole i =>
    simp only [asNat?, Numeral.whole.injEq]
    split
    · simp only [Option.some.injEq]
      omega
    · simp only [reduceCtorEq, false_iff]
      omega

theorem bind_asNat?_eq_some_iff {n : Nat} :
    found.bind asNat? = some n ↔ n < Nat.pow 2 64 ∧ found = some (.number (.whole n)) := by
  cases found with
  | none => simp
  | some v =>
    cases v with
    | number m => simpa using asNat?_number_eq_some_iff
    | _ => simp [asNat?]

end Settle.Json.Value

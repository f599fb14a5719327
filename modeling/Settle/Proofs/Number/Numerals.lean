import Settle.Counter
import Settle.Proofs.Command.Classes
import Settle.Proofs.Text.Padding

/-!
# Numerals and counters

`Number.Writes` says which characters write a whole number: decimal digits, of which there may be
any number, after a plus sign or without. The reader takes just these, up to its limit, and no
value wraps around (`Number.readNat_eq_ok_iff`, `Number.readNat_of_large`). A counter is such a
numeral with blanks around it, or nothing but blanks (`readCounter_grammar`).
-/

namespace Settle

namespace Number

def Writes (cs : List Char) (n : Nat) : Prop :=
  ∃ sign digits, cs = sign ++ digits ∧ (sign = [] ∨ sign = ['+']) ∧
    digits ≠ [] ∧ (∀ c ∈ digits, c.isDigit = true) ∧ Nat.ofDigitChars 10 digits 0 = n

variable {limit n : Nat} {cs : List Char}

theorem le_ofDigitChars (acc : Nat) (cs : List Char) : acc ≤ Nat.ofDigitChars 10 cs acc := by
  rw [Nat.ofDigitChars_eq_ofDigitChars_zero]
  exact Nat.le_add_right_of_le (Nat.le_mul_of_pos_left acc (Nat.pow_pos (by decide)))

/-- The reader stops at the digit that passes the limit; the whole number passes it, too. -/
theorem readDigits_of_digits {acc : Nat} (small : acc < limit)
    (digits : ∀ c ∈ cs, c.isDigit = true) :
    readDigits limit acc cs =
      if Nat.ofDigitChars 10 cs acc < limit then .ok (Nat.ofDigitChars 10 cs acc)
      else .error .tooLarge := by
  induction cs generalizing acc with
  | nil => rw [readDigits, Nat.ofDigitChars_nil, if_pos small]
  | cons c cs ih =>
    obtain ⟨hc, hcs⟩ := List.forall_mem_cons.mp digits
    have step : acc * 10 + (c.toNat - 48) = 10 * acc + (c.toNat - '0'.toNat) := by
      rw [Nat.mul_comm]
      rfl
    rw [readDigits, if_pos hc, Nat.ofDigitChars_cons, step]
    dsimp only
    by_cases fits : 10 * acc + (c.toNat - '0'.toNat) < limit
    · rw [if_pos fits, ih fits hcs]
    · have grows := le_ofDigitChars (10 * acc + (c.toNat - '0'.toNat)) cs
      rw [if_neg fits, if_neg (by omega)]

theorem digits_of_readDigits {acc : Nat} (h : readDigits limit acc cs = .ok n) :
    ∀ c ∈ cs, c.isDigit = true := by
  induction cs generalizing acc with
  | nil => exact nofun
  | cons c cs ih =>
    rw [readDigits] at h
    split at h
    · rename_i hc
      dsimp only at h
      split at h
      · exact List.forall_mem_cons.mpr ⟨hc, ih h⟩
      · cases h
    · cases h

theorem readDigits_ne_empty (acc : Nat) : readDigits limit acc cs ≠ .error .empty := by
  induction cs generalizing acc with
  | nil => exact nofun
  | cons c cs ih =>
    rw [readDigits]
    dsimp only
    split
    · split
      · exact ih _
      · exact nofun
    · exact nofun

/-! ## Whole numbers -/

variable {text : String}

/-- The sign that a numeral may begin with is no digit, so that it is told from them. -/
theorem readNat_of_numeral {sign digits : List Char} (split : text.toList = sign ++ digits)
    (hs : sign = [] ∨ sign = ['+']) (some : digits ≠ []) (hd : ∀ c ∈ digits, c.isDigit = true) :
    readNat limit text = readDigits limit 0 digits := by
  obtain ⟨c, cs, rfl⟩ := List.exists_cons_of_ne_nil some
  rcases hs with rfl | rfl
  · have unsigned : c ≠ '+' := by
      rintro rfl
      exact absurd (hd '+' List.mem_cons_self) (by decide)
    unfold readNat
    rw [split]
    split <;> simp_all
  · unfold readNat
    rw [split]
    rfl

theorem readNat_eq_ok_iff (pos : 0 < limit) :
    readNat limit text = .ok n ↔ Writes text.toList n ∧ n < limit := by
  constructor
  · intro h
    obtain ⟨sign, digits, split, hs, some, read⟩ : ∃ sign digits, text.toList = sign ++ digits ∧
        (sign = [] ∨ sign = ['+']) ∧ digits ≠ [] ∧ readDigits limit 0 digits = .ok n := by
      unfold readNat at h
      split at h
      · cases h
      · cases h
      · rename_i cs alone hl
        exact ⟨['+'], cs, hl, .inr rfl, alone, h⟩
      · rename_i empty _ _
        exact ⟨[], text.toList, rfl, .inl rfl, empty, h⟩
    have hd := digits_of_readDigits read
    rw [readDigits_of_digits pos hd] at read
    split at read
    · rename_i small
      cases read
      exact ⟨⟨sign, digits, split, hs, some, hd, rfl⟩, small⟩
    · cases read
  · rintro ⟨⟨sign, digits, split, hs, some, hd, rfl⟩, small⟩
    rw [readNat_of_numeral split hs some hd, readDigits_of_digits pos hd, if_pos small]

theorem readNat_of_large (pos : 0 < limit) (h : Writes text.toList n) (large : limit ≤ n) :
    readNat limit text = .error .tooLarge := by
  obtain ⟨sign, digits, split, hs, some, hd, rfl⟩ := h
  rw [readNat_of_numeral split hs some hd, readDigits_of_digits pos hd,
    if_neg (Nat.not_lt.mpr large)]

theorem readNat_ne_empty (h : text ≠ "") : readNat limit text ≠ .error .empty := by
  unfold readNat
  split
  · rename_i empty
    exact absurd (String.toList_eq_nil_iff.mp empty) h
  · exact nofun
  · exact readDigits_ne_empty 0
  · exact readDigits_ne_empty 0

theorem writes_toString (n : Nat) : Writes (toString n).toList n := by
  rw [CommandFailure.toList_toString_nat]
  exact ⟨[], _, rfl, .inl rfl, Nat.toDigits_ne_nil,
    fun _ => Nat.isDigit_of_mem_toDigits (by decide) (by decide), Nat.ofDigitChars_ten_toDigits⟩

theorem Writes.tight (h : Writes cs n) : Text.Tight cs := by
  obtain ⟨sign, digits, rfl, hs, some, hd, -⟩ := h
  have solid (c : Char) (hc : c ∈ digits) : Text.isBlank c = false :=
    CommandFailure.isBlank_of_isDigit (hd c hc)
  constructor
  · rcases hs with rfl | rfl
    · rw [List.nil_append, List.head?_eq_some_head some, Option.any_some,
        solid _ (List.head_mem some)]
      rfl
    · rfl
  · rw [List.getLast?_append_of_ne_nil sign some, List.getLast?_eq_some_getLast some,
      Option.any_some, solid _ (List.getLast_mem some)]
    rfl

def WritesPadded (text : String) (n : Nat) : Prop :=
  ∃ before numeral after, text = before ++ numeral ++ after ∧
    Text.AllBlank before ∧ Text.AllBlank after ∧ Writes numeral.toList n

theorem writesPadded_iff : WritesPadded text n ↔ Writes (Text.trim text).toList n := by
  constructor
  · rintro ⟨before, numeral, after, rfl, hb, ha, written⟩
    rwa [Text.trim_padded hb ha written.tight]
  · intro written
    obtain ⟨before, after, hb, ha, split⟩ := Text.exists_padding text
    exact ⟨before, _, after, split, hb, ha, written⟩

theorem WritesPadded.not_blank (h : WritesPadded text n) : ¬ Text.AllBlank text := by
  intro blank
  obtain ⟨head, -⟩ := (writesPadded_iff.mp h).tight
  rw [Text.trim_eq_empty_iff.mpr blank] at head
  cases head

end Number

open Number (NatError WritesPadded)

/-! ## Counters -/

theorem readCounter_of_blank {value : String} (h : Text.AllBlank value) (what : String) :
    readCounter value what = .ok 0 := by
  rw [readCounter, Text.trim_eq_empty_iff.mpr h]
  rfl

theorem readCounter_of_not_blank {value : String} (h : ¬ Text.AllBlank value) (what : String) :
    readCounter value what = (Number.readNat counterLimit (Text.trim value)).mapError fun e =>
      .decode what (Text.quote (Text.trim value) ++ ": " ++ e.message) := by
  have some : (Text.trim value).isEmpty = false := by
    rw [Bool.eq_false_iff, ne_eq, String.isEmpty_iff, Text.trim_eq_empty_iff]
    exact h
  simp only [readCounter, some, Bool.false_eq_true, if_false]
  cases Number.readNat counterLimit (Text.trim value) <;> rfl

theorem readCounter_eq_ok_iff {value what : String} {n : Nat} :
    readCounter value what = .ok n ↔
      Text.AllBlank value ∧ n = 0 ∨ WritesPadded value n ∧ n < Nat.pow 2 32 := by
  by_cases blank : Text.AllBlank value
  · have none : ¬ WritesPadded value n := fun written => written.not_blank blank
    simp [readCounter_of_blank blank, blank, none, eq_comm]
  · have read : Number.readNat counterLimit (Text.trim value) = .ok n ↔
        WritesPadded value n ∧ n < Nat.pow 2 32 := by
      rw [Number.readNat_eq_ok_iff (by decide), Number.writesPadded_iff]
      rfl
    rw [readCounter_of_not_blank blank, or_iff_right fun h => blank h.1, ← read]
    cases Number.readNat counterLimit (Text.trim value) <;> simp [Except.mapError]

theorem readCounter_of_large {value : String} {n : Nat} (h : WritesPadded value n)
    (large : Nat.pow 2 32 ≤ n) (what : String) :
    readCounter value what =
      .error (.decode what
        (Text.quote (Text.trim value) ++ ": " ++ NatError.tooLarge.message)) := by
  have read : Number.readNat counterLimit (Text.trim value) = .error .tooLarge :=
    Number.readNat_of_large (by decide) (Number.writesPadded_iff.mp h) large
  rw [readCounter_of_not_blank h.not_blank, read]
  rfl

/-- A counter is read from blanks, as zero, and from a numeral with blanks around it that stays
below the limit; anything else is a fault of decoding, which says what it was about, what it found
and what is wrong with it. A numeral beyond the limit is too large, of whatever length it is. -/
theorem readCounter_grammar (value what : String) :
    (∀ n, readCounter value what = .ok n ↔
      Text.AllBlank value ∧ n = 0 ∨ WritesPadded value n ∧ n < Nat.pow 2 32) ∧
    ((∃ reason : NatError, reason ≠ .empty ∧ readCounter value what =
        .error (.decode what (Text.quote (Text.trim value) ++ ": " ++ reason.message))) ↔
      ¬ Text.AllBlank value ∧ ∀ n < Nat.pow 2 32, ¬ WritesPadded value n) ∧
    (∀ n, WritesPadded value n → Nat.pow 2 32 ≤ n → readCounter value what =
      .error (.decode what (Text.quote (Text.trim value) ++ ": " ++ NatError.tooLarge.message))) ∧
    ∀ before after, Text.AllBlank before → Text.AllBlank after → ∀ n < Nat.pow 2 32,
      readCounter (before ++ toString n ++ after) what = .ok n := by
  refine ⟨fun n => readCounter_eq_ok_iff, ⟨?_, ?_⟩,
    fun n written large => readCounter_of_large written large what,
    fun before after hb ha n small => ?_⟩
  · rintro ⟨reason, -, fault⟩
    have unread (n : Nat) : readCounter value what ≠ .ok n := fault ▸ nofun
    refine ⟨fun blank => unread 0 (readCounter_of_blank blank what), fun n small written => ?_⟩
    exact unread n (readCounter_eq_ok_iff.mpr (.inr ⟨written, small⟩))
  · rintro ⟨solid, none⟩
    rw [readCounter_of_not_blank solid]
    cases read : Number.readNat counterLimit (Text.trim value) with
    | ok n =>
      obtain ⟨written, small⟩ := (Number.readNat_eq_ok_iff (by decide)).mp read
      exact absurd (Number.writesPadded_iff.mpr written) (none n small)
    | error reason =>
      refine ⟨reason, ?_, rfl⟩
      rintro rfl
      exact Number.readNat_ne_empty (fun empty => solid (Text.trim_eq_empty_iff.mp empty)) read
  · exact readCounter_eq_ok_iff.mpr
      (.inr ⟨⟨before, _, after, rfl, hb, ha, Number.writes_toString n⟩, small⟩)

/-- A sign and zeros in front of the digit, with blanks around; then the number that would be the
same counter if it were taken modulo the limit. -/
theorem readCounter_grammar_signed :
    readCounter "\u3000+007\n" "readyReplicas" = .ok 7 ∧
      readCounter " 4294967303" "readyReplicas" =
        .error (.decode "readyReplicas"
          "\"4294967303\": number too large to fit in target type") := by
  have written : WritesPadded "\u3000+007\n" 7 :=
    ⟨"\u3000", "+007", "\n", rfl, by decide, by decide, ['+'], ['0', '0', '7'], rfl, .inr rfl,
      by decide, List.all_eq_true.mp (by decide), rfl⟩
  have large : WritesPadded " 4294967303" 4294967303 :=
    ⟨" ", "4294967303", "", rfl, by decide, by decide, [], "4294967303".toList, rfl, .inl rfl,
      by decide, List.all_eq_true.mp (by decide), by decide⟩
  constructor
  · obtain ⟨reads, -⟩ := readCounter_grammar "\u3000+007\n" "readyReplicas"
    exact (reads 7).mpr (.inr ⟨written, by decide⟩)
  · obtain ⟨-, -, refuses, -⟩ := readCounter_grammar " 4294967303" "readyReplicas"
    exact refuses 4294967303 large (by decide)

end Settle

import Mathlib.Data.List.Sort
import Settle.Proofs.Text.Order
import Settle.Template.Engine

/-!
# Parameters as they are given

Parameters are given as texts `KEY=VALUE`, in any order and perhaps with a key more than once. What
a template keeps of them are the last texts of all keys, in the order of the keys (`Chosen`), and
these texts, as they were given, are what its expansion is started with
(`Template.processArgs_ofParams`). So the order in which different keys are given has no effect
(`Template.ofParams_perm`).
-/

namespace Settle

/-! ## Associations -/

/-- The element is in the list, and no later one has its key. -/
def LastOf {α κ : Type} (key : α → κ) (xs : List α) (x : α) : Prop :=
  ∃ before after, xs = before ++ x :: after ∧ ∀ y ∈ after, key y ≠ key x

section LastOf

variable {α β κ : Type} {key : α → κ} {x y : α} {xs : List α}

theorem not_lastOf_nil : ¬ LastOf key [] x := by
  rintro ⟨before, after, empty, -⟩
  simp at empty

theorem lastOf_cons :
    LastOf key (x :: xs) y ↔ LastOf key xs y ∨ (x = y ∧ ∀ z ∈ xs, key z ≠ key y) := by
  constructor
  · rintro ⟨before, after, split, last⟩
    cases before with
    | nil =>
      obtain ⟨rfl, rfl⟩ := List.cons.inj split
      exact .inr ⟨rfl, last⟩
    | cons b before =>
      obtain ⟨-, rfl⟩ := List.cons.inj split
      exact .inl ⟨before, after, rfl, last⟩
  · rintro (⟨before, after, rfl, last⟩ | ⟨rfl, last⟩)
    · exact ⟨x :: before, after, rfl, last⟩
    · exact ⟨[], xs, rfl, last⟩

theorem lastOf_map {f : β → α} {bs : List β} :
    LastOf key (bs.map f) x ↔ ∃ b, LastOf (key ∘ f) bs b ∧ f b = x := by
  induction bs with
  | nil =>
    refine iff_of_false not_lastOf_nil ?_
    rintro ⟨b, last, -⟩
    exact not_lastOf_nil last
  | cons b bs ih =>
    rw [List.map_cons, lastOf_cons, ih]
    constructor
    · rintro (⟨b', last, rfl⟩ | ⟨rfl, last⟩)
      · exact ⟨b', lastOf_cons.mpr (.inl last), rfl⟩
      · exact ⟨b, lastOf_cons.mpr (.inr ⟨rfl, by simpa using last⟩), rfl⟩
    · rintro ⟨b', last, rfl⟩
      rcases lastOf_cons.mp last with last | ⟨rfl, last⟩
      · exact .inl ⟨b', last, rfl⟩
      · exact .inr ⟨rfl, by simpa using last⟩

theorem lastOf_of_nodup (h : (xs.map key).Nodup) : LastOf key xs x ↔ x ∈ xs := by
  induction xs with
  | nil => exact iff_of_false not_lastOf_nil List.not_mem_nil
  | cons z xs ih =>
    obtain ⟨first, rest⟩ := List.nodup_cons.mp h
    rw [lastOf_cons, ih rest, List.mem_cons, or_comm, eq_comm]
    refine or_congr_left (and_iff_left_of_imp ?_)
    rintro rfl y hy same
    exact first (same ▸ List.mem_map_of_mem hy)

end LastOf

namespace Association

variable {α : Type} {k : String} {v : α} {ps pairs : List (String × α)} {q : String × α}

/-- The keys ascend, so that each of them comes once. -/
def Sorted (ps : List (String × α)) : Prop := ps.Pairwise fun p q => p.1 < q.1

theorem mem_insert (sorted : Sorted ps) :
    q ∈ insert k v ps ↔ q = (k, v) ∨ (q ∈ ps ∧ q.1 ≠ k) := by
  induction ps with
  | nil => simp [insert]
  | cons p ps ih =>
    obtain ⟨k', v'⟩ := p
    obtain ⟨first, rest⟩ := List.pairwise_cons.mp sorted
    have above (hq : q ∈ ps) : k' < q.1 := first q hq
    rw [insert]
    split
    · rename_i less
      rw [List.mem_cons]
      refine or_congr_right (and_iff_left_of_imp fun hq same => ?_).symm
      rcases List.mem_cons.mp hq with rfl | hq
      · exact String.lt_irrefl _ (same ▸ less)
      · exact String.lt_irrefl _ (same ▸ String.lt_trans less (above hq))
    · split
      · rename_i same
        subst same
        rw [List.mem_cons, List.mem_cons]
        refine or_congr_right ⟨fun hq => ⟨.inr hq, ?_⟩, ?_⟩
        · rintro same
          exact String.lt_irrefl _ (same ▸ above hq)
        · rintro ⟨rfl | hq, other⟩
          · exact absurd rfl other
          · exact hq
      · rename_i other
        rw [List.mem_cons, List.mem_cons, ih rest]
        have old : q = (k', v') → q.1 ≠ k := by
          rintro rfl same
          exact other same.symm
        tauto

theorem insert_sorted (sorted : Sorted ps) : Sorted (insert k v ps) := by
  induction ps with
  | nil => exact List.pairwise_singleton _ _
  | cons p ps ih =>
    obtain ⟨k', v'⟩ := p
    obtain ⟨first, rest⟩ := List.pairwise_cons.mp sorted
    rw [insert]
    split
    · rename_i less
      refine List.pairwise_cons.mpr ⟨fun q hq => ?_, sorted⟩
      rcases List.mem_cons.mp hq with rfl | hq
      · exact less
      · exact String.lt_trans less (first q hq)
    · split
      · rename_i same
        subst same
        exact List.pairwise_cons.mpr ⟨first, rest⟩
      · rename_i notLess other
        refine List.pairwise_cons.mpr ⟨fun q hq => ?_, ih rest⟩
        rcases (mem_insert rest).mp hq with rfl | ⟨hq, -⟩
        · by_contra h
          exact other (String.le_antisymm (String.not_lt.mp h) (String.not_lt.mp notLess))
        · exact first q hq

theorem foldl_insert (sorted : Sorted ps) :
    Sorted (pairs.foldl (fun ps p => insert p.1 p.2 ps) ps) ∧
      ∀ q, q ∈ pairs.foldl (fun ps p => insert p.1 p.2 ps) ps ↔
        LastOf Prod.fst pairs q ∨ (q ∈ ps ∧ ∀ p ∈ pairs, p.1 ≠ q.1) := by
  induction pairs generalizing ps with
  | nil => exact ⟨sorted, fun q => by simp [not_lastOf_nil]⟩
  | cons p pairs ih =>
    obtain ⟨sorted', mem⟩ := ih (insert_sorted (k := p.1) (v := p.2) sorted)
    refine ⟨sorted', fun q => ?_⟩
    rw [List.foldl_cons, mem, mem_insert sorted, lastOf_cons, List.forall_mem_cons,
      eq_comm (a := q)]
    tauto

theorem ofPairs_sorted (pairs : List (String × α)) : Sorted (ofPairs pairs) :=
  (foldl_insert List.Pairwise.nil).1

theorem mem_ofPairs : q ∈ ofPairs pairs ↔ LastOf Prod.fst pairs q := by
  rw [ofPairs, (foldl_insert List.Pairwise.nil).2]
  simp

theorem Sorted.ext {qs : List (String × α)} (hp : Sorted ps) (hq : Sorted qs)
    (same : ∀ p, p ∈ ps ↔ p ∈ qs) : ps = qs := by
  have antisymm : Std.Antisymm fun p q : String × α => p.1 < q.1 :=
    ⟨fun p q less greater => absurd (String.lt_trans less greater) (String.lt_irrefl _)⟩
  have irrefl : Std.Irrefl fun p q : String × α => p.1 < q.1 := ⟨fun p => String.lt_irrefl _⟩
  exact List.Pairwise.eq_of_mem_iff hp hq same

/-- The order of pairs with different keys has no effect. -/
theorem ofPairs_perm {pairs' : List (String × α)} (perm : pairs.Perm pairs')
    (nodup : (pairs.map Prod.fst).Nodup) : ofPairs pairs = ofPairs pairs' := by
  have nodup' : (pairs'.map Prod.fst).Nodup := (perm.map Prod.fst).nodup_iff.mp nodup
  refine (ofPairs_sorted pairs).ext (ofPairs_sorted pairs') fun p => ?_
  rw [mem_ofPairs, mem_ofPairs, lastOf_of_nodup nodup, lastOf_of_nodup nodup', perm.mem_iff]

end Association

/-! ## Texts -/

namespace Template

variable {text : String} {texts : List String}

def keyOf (text : String) : String := String.ofList (text.toList.takeWhile (· ≠ '='))

def valueOf (text : String) : String := String.ofList ((text.toList.dropWhile (· ≠ '=')).drop 1)

/-- The parameters in texts; a text without an equals sign has none. -/
def paramsOf (texts : List String) : List (String × String) :=
  texts.filterMap (Text.splitOnce '=')

/-- What becomes of texts in which keys come again: in the order of the bytes of their keys, the
last text of every key. -/
structure Chosen (texts chosen : List String) : Prop where
  ascending : chosen.Pairwise fun s t =>
    Text.Utf8.encode (keyOf s) < Text.Utf8.encode (keyOf t)
  last : ∀ t, t ∈ chosen ↔ LastOf keyOf texts t

theorem cutAt_eq {cs : List Char} (h : '=' ∈ cs) :
    Text.cutAt '=' cs = some (cs.takeWhile (· ≠ '='), (cs.dropWhile (· ≠ '=')).drop 1) ∧
      cs.takeWhile (· ≠ '=') ++ '=' :: (cs.dropWhile (· ≠ '=')).drop 1 = cs := by
  induction cs with
  | nil => cases h
  | cons c cs ih =>
    by_cases hc : c = '='
    · subst hc
      simp [Text.cutAt]
    · obtain ⟨cut, joined⟩ := ih ((List.mem_cons.mp h).resolve_left (Ne.symm hc))
      simpa [Text.cutAt, hc, cut] using joined

theorem splitOnce_eq (h : '=' ∈ text.toList) :
    Text.splitOnce '=' text = some (keyOf text, valueOf text) := by
  rw [Text.splitOnce, (cutAt_eq h).1]
  rfl

theorem keyOf_append_valueOf (h : '=' ∈ text.toList) :
    keyOf text ++ "=" ++ valueOf text = text := by
  rw [← String.toList_inj]
  simpa [keyOf, valueOf] using (cutAt_eq h).2

theorem paramsOf_eq (h : ∀ t ∈ texts, '=' ∈ t.toList) :
    paramsOf texts = texts.map fun t => (keyOf t, valueOf t) := by
  induction texts with
  | nil => rfl
  | cons t texts ih =>
    obtain ⟨ht, hts⟩ := List.forall_mem_cons.mp h
    rw [paramsOf, List.filterMap_cons_some (splitOnce_eq ht), List.map_cons, ← ih hts]
    rfl

theorem processArgs_ofParams (h : ∀ t ∈ texts, '=' ∈ t.toList) :
    ∃ chosen, Chosen texts chosen ∧ ∀ source,
      (ofParams source (paramsOf texts)).processArgs false =
        "-f" :: source :: chosen.flatMap fun t => ["-p", t] := by
  let given (t : String) : String × String := (keyOf t, valueOf t)
  let joined (p : String × String) : String := p.1 ++ "=" ++ p.2
  have back {t : String} (ht : t ∈ texts) : joined (given t) = t := keyOf_append_valueOf (h t ht)
  have pairs : paramsOf texts = texts.map given := paramsOf_eq h
  have mem (p : String × String) : p ∈ Association.ofPairs (paramsOf texts) ↔
      ∃ t, LastOf keyOf texts t ∧ given t = p := by
    rw [Association.mem_ofPairs, pairs, lastOf_map]
    rfl
  have of_last {t : String} (last : LastOf keyOf texts t) : t ∈ texts := by
    obtain ⟨before, after, rfl, -⟩ := last
    simp
  have key {p : String × String} (hp : p ∈ Association.ofPairs (paramsOf texts)) :
      keyOf (joined p) = p.1 := by
    obtain ⟨t, last, rfl⟩ := (mem p).mp hp
    rw [back (of_last last)]
  refine ⟨(Association.ofPairs (paramsOf texts)).map joined, ⟨?_, fun t => ?_⟩, fun source => ?_⟩
  · rw [List.pairwise_map]
    refine (Association.ofPairs_sorted (paramsOf texts)).imp_of_mem fun hp hq less => ?_
    rw [key hp, key hq]
    exact Text.Utf8.encode_lt_iff.mpr less
  · rw [List.mem_map]
    constructor
    · rintro ⟨p, hp, rfl⟩
      obtain ⟨t, last, rfl⟩ := (mem p).mp hp
      rwa [back (of_last last)]
    · intro last
      exact ⟨given t, (mem _).mpr ⟨t, last, rfl⟩, back (of_last last)⟩
  · rw [processArgs, List.flatMap_map]
    rfl

theorem ofParams_perm {texts' : List String} (h : ∀ t ∈ texts, '=' ∈ t.toList)
    (perm : texts.Perm texts') (nodup : (texts.map keyOf).Nodup) (source : String) :
    ofParams source (paramsOf texts) = ofParams source (paramsOf texts') := by
  have nodup : ((paramsOf texts).map Prod.fst).Nodup := by
    rw [paramsOf_eq h, List.map_map]
    exact nodup
  have perm : (paramsOf texts).Perm (paramsOf texts') := perm.filterMap _
  rw [ofParams, ofParams, Association.ofPairs_perm perm nodup]

end Template

end Settle

import Settle.Proofs.Template.Places

/-!
# Placeholders that substitution joins

Values are put in and not read again, so the document may have a placeholder that the template has
not: in `$\x7b$\x7bA\x7d\x7d` the value of `A` becomes the key of another one. As long as the values
have no mark of a placeholder themselves, the marks of such a placeholder come from the template
(`exists_char_of_fill`), and `Joins` says where. A document without placeholders stays as it is
(`substitute_self_iff`).
-/

namespace Settle.Template

variable {params : List (String × String)} {text xs ys : List Char} {ps qs : List Piece}

def Plain (params : List (String × String)) : Prop :=
  ∀ k v, params.lookup k = some v → ∀ c ∈ v.toList, isMark c = false

/-- Substitution joins a placeholder with this key: after a dollar sign that begins none, everything
up to a brace comes to nothing, and everything from there to the other brace comes to the key. -/
def Joins (params : List (String × String)) (text : List Char) (key : String) : Prop :=
  isKey key.toList = true ∧ ∃ before gap inner after,
    text = before ++ '$' :: (gap ++ '\x7b' :: (inner ++ '\x7d' :: after)) ∧
    (∀ k, ¬ PlaceAt text before.length k) ∧
    substitute params (String.ofList gap) = .ok "" ∧
    substitute params (String.ofList inner) = .ok key

theorem Plain.of_all (h : params.all (fun kv => kv.2.toList.all (!isMark ·)) = true) :
    Plain params := by
  intro k v hv c hc
  obtain ⟨before, after, rfl, -⟩ := List.lookup_eq_some_iff.mp hv
  simp only [List.all_eq_true, Bool.not_eq_true'] at h
  exact h (k, v) (List.mem_append_right _ List.mem_cons_self) c hc

theorem PlaceAt.append {i : Nat} {k : String} (h : PlaceAt xs i k) (ys : List Char) :
    PlaceAt (xs ++ ys) i k := by
  refine ⟨h.1, h.2.trans ?_⟩
  rw [List.drop_append]
  exact List.prefix_append _ _

/-- A reading is the only one. -/
theorem Reads.eq_pieces (h : Reads text ps) : pieces text = ps := by
  induction h with
  | nil => rw [pieces]
  | @placeholder k rest ps hk _ ih =>
    have found : bracedKey? ('\x7b' :: (k.toList ++ '\x7d' :: rest)) = some (k, rest) :=
      bracedKey?_eq_some_iff.mpr ⟨hk, rfl⟩
    rw [spelled_append, pieces, if_pos rfl]
    split
    · rename_i key rest' found'
      rw [found] at found'
      cases found'
      rw [ih]
    · rename_i missing
      rw [found] at missing
      cases missing
  | @char c cs ps none _ ih =>
    rw [pieces]
    split
    · rename_i dollar
      split
      · rename_i key rest found
        exact absurd (placeAt_zero_iff.mpr ⟨dollar, rest, found⟩) (none key)
      · rw [ih]
    · rw [ih]

theorem Reads.split (h : Reads text (ps ++ qs)) :
    ∃ xs ys, text = xs ++ ys ∧ Reads xs ps ∧ Reads ys qs := by
  induction ps generalizing text with
  | nil => exact ⟨[], text, rfl, .nil, h⟩
  | cons p ps ih =>
    cases h with
    | @placeholder k rest _ hk reads =>
      obtain ⟨xs, ys, rfl, first, second⟩ := ih reads
      exact ⟨spelled k ++ xs, ys, (List.append_assoc _ _ _).symm, .placeholder hk first, second⟩
    | @char c cs _ none reads =>
      obtain ⟨xs, ys, rfl, first, second⟩ := ih reads
      exact ⟨c :: xs, ys, rfl, .char (fun k place => none k (place.append ys)) first, second⟩

theorem Reads.of_char {c : Char} (h : Reads text (.char c :: ps)) :
    ∃ cs, text = c :: cs ∧ (∀ k, ¬ PlaceAt text 0 k) ∧ Reads cs ps := by
  cases h with
  | char none reads => exact ⟨_, rfl, none, reads⟩

/-- No placeholder begins in a text whose characters of its own are no dollar signs, and ends after
it. -/
theorem Reads.append_of_no_dollar (h : Reads xs ps) (none : .char '$' ∉ ps) (h' : Reads ys qs) :
    Reads (xs ++ ys) (ps ++ qs) := by
  induction h with
  | nil => exact h'
  | @placeholder k rest ps hk _ ih =>
    rw [List.append_assoc]
    exact .placeholder hk (ih fun hm => none (List.mem_cons_of_mem _ hm))
  | @char c cs ps _ _ ih =>
    refine .char (fun k place => none ?_) (ih fun hm => none (List.mem_cons_of_mem _ hm))
    rw [(placeAt_zero_iff.mp place).1]
    exact List.mem_cons_self

/-- No placeholder that begins before a dollar sign ends after it. -/
theorem Reads.append_dollar (h : Reads xs ps) (h' : Reads ('$' :: ys) qs) :
    Reads (xs ++ '$' :: ys) (ps ++ qs) := by
  induction h with
  | nil => exact h'
  | @placeholder k rest ps hk _ ih =>
    rw [List.append_assoc]
    exact .placeholder hk ih
  | @char c cs ps none _ ih =>
    refine .char (fun k place => ?_) ih
    obtain ⟨hk, rest, same⟩ := place
    replace same : spelled k ++ rest = (c :: cs) ++ '$' :: ys := same
    rw [List.append_eq_append_iff] at same
    rcases same with ⟨tail, ends, -⟩ | ⟨tail, ends, rest_eq⟩
    · exact none k ⟨hk, tail, ends.symm⟩
    · cases tail with
      | nil => exact none k ⟨hk, [], by rw [List.append_nil, ends, List.append_nil, List.drop_zero]⟩
      | cons d tail =>
        cases rest_eq
        refine dollar_not_mem_braced hk ?_
        rw [(List.cons.inj ends).2]
        exact List.mem_append_right _ List.mem_cons_self

/-! ## Marks of the document -/

theorem isMark_of_mem_fill (plain : Plain params) {key : String} {c : Char}
    (h : c ∈ (Piece.placeholder key).fill params) : isMark c = false := by
  rw [Piece.fill] at h
  cases hv : params.lookup key with
  | none =>
    rw [hv] at h
    cases h
  | some v =>
    rw [hv] at h
    exact plain key v hv c h

theorem exists_char_of_fill (plain : Plain params) {c : Char} (mark : isMark c = true)
    (h : ps.flatMap (Piece.fill params) = xs ++ c :: ys) :
    ∃ qs rs, ps = qs ++ .char c :: rs ∧ qs.flatMap (Piece.fill params) = xs ∧
      rs.flatMap (Piece.fill params) = ys := by
  induction ps generalizing xs with
  | nil => cases xs <;> cases h
  | cons p ps ih =>
    rw [List.flatMap_cons, List.append_eq_append_iff] at h
    rcases h with ⟨later, rfl, h⟩ | ⟨_ | ⟨d, more⟩, ends, h⟩
    · obtain ⟨qs, rs, rfl, hq, hr⟩ := ih h
      exact ⟨p :: qs, rs, rfl, by rw [List.flatMap_cons, hq], hr⟩
    · have later : ps.flatMap (Piece.fill params) = [] ++ c :: ys := h.symm
      obtain ⟨qs, rs, rfl, hq, hr⟩ := ih later
      exact ⟨p :: qs, rs, rfl, by
        rw [List.flatMap_cons, hq, ends, List.append_nil, List.append_nil], hr⟩
    · obtain ⟨rfl, rfl⟩ := List.cons.inj h
      cases p with
      | placeholder key =>
        have inside : c ∈ (Piece.placeholder key).fill params := by
          rw [ends]
          exact List.mem_append_right _ List.mem_cons_self
        rw [isMark_of_mem_fill plain inside] at mark
        cases mark
      | char d =>
        cases xs with
        | nil =>
          cases ends
          exact ⟨[], ps, rfl, rfl, rfl⟩
        | cons x xs => cases xs <;> cases ends

theorem Reads.of_ne {c : Char} (hc : c ≠ '$') (h : Reads text ps) :
    Reads (c :: text) (.char c :: ps) :=
  .char (fun _ place => hc (placeAt_zero_iff.mp place).1) h

/-! ## The two directions -/

theorem Reads.substitute_eq_ok (h : Reads text ps)
    (bound : ∀ i k, PlaceAt text i k → params.lookup k ≠ none) {doc : String}
    (written : ps.flatMap (Piece.fill params) = doc.toList) :
    substitute params (String.ofList text) = .ok doc := by
  rw [substitute_eq_ok_iff, String.toList_ofList, h.eq_pieces]
  exact ⟨bound, written.symm⟩

theorem flatMap_fill_of_substitute {doc : String}
    (h : substitute params (String.ofList text) = .ok doc) :
    (pieces text).flatMap (Piece.fill params) = doc.toList := by
  rw [toList_of_substitute h, String.toList_ofList]

theorem not_mem_pieces_of_substitute {doc : String}
    (h : substitute params (String.ofList text) = .ok doc) {c : Char} (hc : c ∉ doc.toList) :
    .char c ∉ pieces text := by
  intro hm
  refine hc ?_
  rw [← flatMap_fill_of_substitute h]
  exact List.mem_flatMap.mpr ⟨_, hm, List.mem_singleton_self c⟩

theorem joins_of_placeAt {text doc : String} (plain : Plain params)
    (done : substitute params text = .ok doc) {i : Nat} {key : String}
    (place : PlaceAt doc.toList i key) : Joins params text.toList key := by
  obtain ⟨bound, written⟩ := substitute_eq_ok_iff.mp done
  obtain ⟨hk, rest, there⟩ := place
  refine ⟨hk, ?_⟩
  have whole : (pieces text.toList).flatMap (Piece.fill params) =
      doc.toList.take i ++ '$' :: ([] ++ '\x7b' :: (key.toList ++ '\x7d' :: rest)) := by
    rw [List.nil_append, ← spelled_append, there, List.take_append_drop, written]
  obtain ⟨before, tail, read, -, fills⟩ := exists_char_of_fill plain (by decide) whole
  obtain ⟨gap, tail, rfl, empty, fills⟩ := exists_char_of_fill plain (by decide) fills
  obtain ⟨inner, after, rfl, filled, -⟩ := exists_char_of_fill plain (by decide) fills
  have reads := reads_pieces text.toList
  rw [read] at reads
  obtain ⟨xs, tail, cut, -, reads⟩ := reads.split
  obtain ⟨tail, rfl, none, reads⟩ := reads.of_char
  obtain ⟨gapText, tail, rfl, readsGap, reads⟩ := reads.split
  obtain ⟨tail, rfl, -, reads⟩ := reads.of_char
  obtain ⟨innerText, tail, rfl, readsInner, reads⟩ := reads.split
  obtain ⟨afterText, rfl, -, -⟩ := reads.of_char
  rw [cut] at bound ⊢
  refine ⟨xs, gapText, innerText, afterText, rfl, fun k place => none k ?_,
    readsGap.substitute_eq_ok (fun j k place => ?_) empty,
    readsInner.substitute_eq_ok (fun j k place => ?_) filled⟩
  · exact (placeAt_append_right (i := 0)).mp place
  · exact bound _ k (placeAt_append_right.mpr (placeAt_cons_succ.mpr (place.append _)))
  · exact bound _ k (placeAt_append_right.mpr (placeAt_cons_succ.mpr
      (placeAt_append_right.mpr (placeAt_cons_succ.mpr (place.append _)))))

theorem Joins.exists_placeAt {text doc : String} {key : String}
    (h : Joins params text.toList key) (done : substitute params text = .ok doc) :
    ∃ i, PlaceAt doc.toList i key := by
  obtain ⟨hk, before, gap, inner, after, cut, none, empty, filled⟩ := h
  have gapFill := flatMap_fill_of_substitute empty
  have innerFill := flatMap_fill_of_substitute filled
  have gapPlain : .char '$' ∉ pieces gap := not_mem_pieces_of_substitute empty List.not_mem_nil
  have innerPlain : .char '$' ∉ pieces inner := not_mem_pieces_of_substitute filled fun hm =>
    absurd (isMark_of_mem_key hk hm) (by decide)
  have readsInner := (reads_pieces inner).append_of_no_dollar innerPlain
    (.of_ne (by decide : '\x7d' ≠ '$') (reads_pieces after))
  have readsGap := (reads_pieces gap).append_of_no_dollar gapPlain
    (.of_ne (by decide : '\x7b' ≠ '$') readsInner)
  have reads := (reads_pieces before).append_dollar (.char (fun k place => none k ?_) readsGap)
  · rw [← cut] at reads
    have written := (substitute_eq_ok_iff.mp done).2
    rw [reads.eq_pieces] at written
    refine ⟨((pieces before).flatMap (Piece.fill params)).length, ?_⟩
    have spelt : doc.toList = (pieces before).flatMap (Piece.fill params) ++
        (spelled key ++ (pieces after).flatMap (Piece.fill params)) := by
      rw [written, spelled_append, ← innerFill]
      simp only [List.flatMap_append, List.flatMap_cons, gapFill]
      rfl
    rw [spelt]
    exact placeAt_append_right.mpr (placeAt_spelled hk _)
  · rw [cut]
    exact (placeAt_append_right (i := 0)).mpr place

theorem Reads.fill_eq_self (h : Reads text ps) (none : ∀ i k, ¬ PlaceAt text i k) :
    ps.flatMap (Piece.fill params) = text := by
  induction h with
  | nil => rfl
  | @placeholder k rest _ hk _ _ => exact absurd (placeAt_spelled hk rest) (none 0 k)
  | @char c cs ps _ _ ih =>
    rw [List.flatMap_cons, ih fun i k place => none (i + 1) k place]
    rfl

/-- A document that has no placeholder, and no other, stays as it is whatever the values. -/
theorem substitute_self_iff {doc : String} :
    (∀ params, substitute params doc = .ok doc) ↔ ∀ i k, ¬ PlaceAt doc.toList i k := by
  constructor
  · intro self i k place
    exact (substitute_eq_ok_iff.mp (self [])).1 i k place rfl
  · intro none params
    refine substitute_eq_ok_iff.mpr ⟨fun i k place => absurd place (none i k), ?_⟩
    exact ((reads_pieces doc.toList).fill_eq_self none).symm

/-- The placeholders of a document are those that substitution joins, when no value has a mark of
one. Without any, substitution changes nothing more. -/
theorem substitute_residue {text doc : String} (plain : Plain params)
    (done : substitute params text = .ok doc) :
    (∀ key, (∃ i, PlaceAt doc.toList i key) ↔ Joins params text.toList key) ∧
    ((∀ params', substitute params' doc = .ok doc) ↔ ∀ key, ¬ Joins params text.toList key) := by
  have joined (key : String) : (∃ i, PlaceAt doc.toList i key) ↔ Joins params text.toList key :=
    ⟨fun ⟨_, place⟩ => joins_of_placeAt plain done place, fun h => h.exists_placeAt done⟩
  refine ⟨joined, substitute_self_iff.trans ⟨fun none key h => ?_, fun none i key place => ?_⟩⟩
  · obtain ⟨i, place⟩ := (joined key).mpr h
    exact none i key place
  · exact none key ((joined key).mp ⟨i, place⟩)

theorem substitute_residue_around_empty :
    Plain [("E", ""), ("B", "1")] ∧
    substitute [("E", ""), ("B", "1")] "$$\x7bE\x7d\x7bA$\x7bB\x7d\x7d" = .ok "$\x7bA1\x7d" ∧
    Joins [("E", ""), ("B", "1")] "$$\x7bE\x7d\x7bA$\x7bB\x7d\x7d".toList "A1" := by
  have plain : Plain [("E", ""), ("B", "1")] := .of_all (by decide +kernel)
  have done : substitute [("E", ""), ("B", "1")] "$$\x7bE\x7d\x7bA$\x7bB\x7d\x7d" =
      .ok "$\x7bA1\x7d" := by decide +kernel
  have place : PlaceAt "$\x7bA1\x7d".toList 0 "A1" :=
    ⟨by decide +kernel, [], by decide +kernel⟩
  exact ⟨plain, done, ((substitute_residue plain done).1 "A1").mp ⟨0, place⟩⟩

/-- A document that has a placeholder, though no value has a mark of one, and does not stay as
it is. -/
theorem substitute_joins_placeholder :
    Plain [("A", "B")] ∧
    substitute [("A", "B")] "$\x7b$\x7bA\x7d\x7d" = .ok "$\x7bB\x7d" ∧
    PlaceAt "$\x7bB\x7d".toList 0 "B" ∧
    substitute [] "$\x7bB\x7d" = .error "B" ∧
    substitute [("B", "C")] "$\x7bB\x7d" = .ok "C" := by
  have plain : Plain [("A", "B")] := .of_all (by decide +kernel)
  have done : substitute [("A", "B")] "$\x7b$\x7bA\x7d\x7d" = .ok "$\x7bB\x7d" := by
    decide +kernel
  have place : PlaceAt "$\x7bB\x7d".toList 0 "B" := ⟨by decide +kernel, [], by decide +kernel⟩
  have missing : substitute [] "$\x7bB\x7d" = .error "B" := by decide +kernel
  have again : substitute [("B", "C")] "$\x7bB\x7d" = .ok "C" := by decide +kernel
  exact ⟨plain, done, place, missing, again⟩

end Settle.Template

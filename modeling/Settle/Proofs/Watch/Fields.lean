import Settle.Proofs.Json.Printing
import Settle.Proofs.Text.Padding
import Settle.Proofs.Watch.Values

/-!
# Fields selected by a pointer

A pointer reduces an output to a text, which is empty where the pointer leads to nothing, to null or
to an empty string. All else it may lead to is printed as more than blanks
(`Projection.allBlank_textOfValue_iff`), so that the wait for a field that is not blank ends with
the first document in which there is something at the pointer (`Handle.awaitField_of_pointer`).
-/

namespace Settle

open Json (Value)

/-- A value that stands for something: not null, and no blank string. -/
def Json.Value.IsFilled : Value → Prop
  | .null => False
  | .string s => ¬ Text.AllBlank s
  | .bool _ | .number _ | .array _ | .object _ => True

namespace Projection

def Shows (path output : String) (v : Value) : Prop :=
  ∃ document, Json.parse output = .ok document ∧ document.pointer? path = some v

theorem compact_ne_empty (v : Value) : v.compact ≠ "" := by
  intro empty
  refine v.not_blank_compact ?_
  rw [empty]
  exact nofun

theorem textOfValue_eq_empty_iff {v : Value} :
    textOfValue v = "" ↔ v = .null ∨ v = .string "" := by
  cases v with
  | null => simp [textOfValue]
  | string s => simp [textOfValue]
  | bool _ | number _ | array _ | object _ => simp [textOfValue, compact_ne_empty]

theorem allBlank_textOfValue_iff {v : Value} :
    Text.AllBlank (textOfValue v) ↔ ¬ v.IsFilled := by
  cases v with
  | null => simp [textOfValue, Text.AllBlank, Value.IsFilled]
  | string s => simp [textOfValue, Value.IsFilled]
  | bool _ | number _ | array _ | object _ =>
    simp [textOfValue, Value.not_blank_compact, Value.IsFilled]

variable {path output : String} {document : Value}

theorem extract_of_document (h : Json.parse output = .ok document) :
    (pointer path).extract output = .ok (select path document) := by
  simp only [extract, h]

theorem select_eq_empty_iff :
    select path document = "" ↔ document.pointer? path = none ∨
      document.pointer? path = some .null ∨ document.pointer? path = some (.string "") := by
  unfold select
  cases document.pointer? path with
  | none => simp
  | some v => simp [textOfValue_eq_empty_iff]

theorem select_of_some {v : Value} (h : document.pointer? path = some v) :
    select path document = textOfValue v := by
  simp only [select, h]

/-- A blank text is selected from a document just when there is nothing at the pointer. -/
theorem allBlank_select_iff :
    Text.AllBlank (select path document) ↔ ∀ v, document.pointer? path = some v → ¬ v.IsFilled := by
  unfold select
  cases document.pointer? path with
  | none => simp [Text.AllBlank]
  | some v => simp [allBlank_textOfValue_iff]

/-- How a value that a pointer leads to is given: null as nothing, a string as it is, any other
value as its compact text, which is never empty. -/
def GivenAs : Value → String → Prop
  | .null, text => text = ""
  | .string s, text => text = s
  | v@(.bool _), text | v@(.number _), text | v@(.array _), text | v@(.object _), text =>
    text = v.compact ∧ text ≠ ""

theorem givenAs_textOfValue (v : Value) : GivenAs v (textOfValue v) := by
  cases v with
  | null | string _ => rfl
  | bool _ | number _ | array _ | object _ => exact ⟨rfl, compact_ne_empty _⟩

end Projection

namespace Awaited

open Projection (Shows textOfValue)

variable {h : Handle} {path : String}

theorem holds_nonBlank_iff {value : String} :
    FieldExpectation.nonBlank.holds value = true ↔ ¬ Text.AllBlank value := by
  simp [FieldExpectation.holds, Text.trim_eq_empty_iff]

theorem meets_nonBlank {output : String} {v : Json.Value} (shown : Shows path output v)
    (filled : v.IsFilled) : (field h (.pointer path) .nonBlank).Meets output (textOfValue v) := by
  obtain ⟨document, parsed, selected⟩ := shown
  refine ⟨?_, holds_nonBlank_iff.mpr fun blank => ?_⟩
  · rw [Projection.extract_of_document parsed, Projection.select_of_some selected]
  · exact Projection.allBlank_textOfValue_iff.mp blank filled

/-- The answer leaves the wait for something at a pointer open: the command failed in passing or
found no object, or there is nothing at the pointer in the document. -/
def Lacks (path : String) : Except CommandFailure String → Prop
  | .error f => f.kind = .transient ∨ f.kind = .notFound
  | .ok output => (∃ document, Json.parse output = .ok document) ∧
      ∀ v, Shows path output v → ¬ v.IsFilled

theorem Lacks.leftOpenBy {answer : Except CommandFailure String} (lacks : Lacks path answer) :
    (field h (.pointer path) .nonBlank).LeftOpenBy answer := by
  cases answer with
  | error f =>
    have keeps : (field h (.pointer path) .nonBlank).consequence f.kind = .keepsPolling := by
      show Consequence.usual f.kind = .keepsPolling
      rcases lacks with kind | kind <;> rw [kind] <;> rfl
    constructor
    · intro v met
      cases keeps.symm.trans met
    · rintro e ⟨fails, -⟩
      cases keeps.symm.trans fails
  | ok output =>
    obtain ⟨⟨document, parsed⟩, unfilled⟩ := lacks
    constructor
    · rintro value ⟨extracted, holds⟩
      rw [Projection.extract_of_document parsed] at extracted
      cases extracted
      refine holds_nonBlank_iff.mp holds (Projection.allBlank_select_iff.mpr fun v selected => ?_)
      exact unfilled v ⟨document, parsed, selected⟩
    · rintro e ⟨path', m, same, garbled, -⟩
      rw [parsed] at garbled
      cases garbled

end Awaited

/-- A pointer makes a fault of decoding of every output but a document, and of a document the text
of the value that it leads to, which is empty only if that is nothing, null or an empty string. The
first answer in which there is something at the pointer ends the wait for a field that is not blank,
with the text of it, when the answers before are documents or failures that keep it polling. -/
theorem Handle.awaitField_of_pointer (path : String) :
    (∀ output,
      ((∃ m, (Projection.pointer path).extract output = .error (.decode "JSON object" m)) ↔
        ¬ ∃ document, Json.parse output = .ok document) ∧
      ∀ document, Json.parse output = .ok document →
        ∃ text, (Projection.pointer path).extract output = .ok text ∧
          (text = "" ↔ document.pointer? path = none ∨ document.pointer? path = some .null ∨
            document.pointer? path = some (.string "")) ∧
          ∀ v, document.pointer? path = some v → Projection.GivenAs v text) ∧
    ∀ {σ : Type} [Cluster σ] (h : Handle) (policy : Policy) (w : World σ),
      let query := h.object.projectionQuery h.client (.pointer path)
      h.client.Uncancelled query policy w →
      ∀ k ≤ policy.pauses, ∀ output v, (w.replyAt query policy k).result = .ok output →
        Projection.Shows path output v → v.IsFilled →
        (∀ j < k, Awaited.Lacks path (w.replyAt query policy j).result) →
        ∃ text, Projection.GivenAs v text ∧
          w.EndsWith query policy k (.success text)
            (h.awaitField (.pointer path) .nonBlank policy w) := by
  constructor
  · intro output
    constructor
    · cases parsed : Json.parse output with
      | error m =>
        simp [Projection.extract, parsed]
      | ok document => simp [Projection.extract_of_document parsed]
    · intro document parsed
      refine ⟨_, Projection.extract_of_document parsed, Projection.select_eq_empty_iff, ?_⟩
      intro v selected
      rw [Projection.select_of_some selected]
      exact Projection.givenAs_textOfValue v
  · intro σ _ h policy w query uncancelled k hk output v answered shown filled before
    let x : Awaited := .field h (.pointer path) .nonBlank
    have undecided (j : Nat) (hj : j < k) :=
      Awaited.leftOpenBy_iff.mp ((before j hj).leftOpenBy (h := h))
    have met : x.MetBy (Projection.textOfValue v) (w.replyAt query policy k).result := by
      rw [answered]
      exact Awaited.meets_nonBlank (h := h) shown filled
    refine ⟨_, Projection.givenAs_textOfValue v, ?_⟩
    exact Client.await_endsWith (x := x.watch) uncancelled hk undecided
      (Verdict.outcome?_eq_success.mpr (Awaited.judge_eq_converged_iff.mpr met))

/-- A passing failure, a missing object, a document without the member and one in which it is null;
then it is an empty array, which is something. -/
theorem Handle.awaitField_of_pointer_to_empty_array :
    let h : Handle := ⟨⟨.admin, true⟩, ⟨"widget", some "t1", "w1"⟩, .unknown⟩
    let w : World Rehearsal.Script :=
      { now := 0, cancelAt := none, log := [], files := .blank, names := .ofSeed 0 8
        cluster := ⟨[
          { left := some 1, reply := ⟨.error (.ofClass .transient "i/o timeout"), false⟩ },
          { left := some 1, reply := ⟨.error (.ofClass .notFound "no w1"), false⟩ },
          { left := some 1, reply := ⟨.ok "\x7b\"status\": 3\x7d", false⟩ },
          { left := some 1, reply := ⟨.ok "\x7b\"status\": \x7b\"on\": null\x7d\x7d", false⟩ },
          { reply := ⟨.ok "\x7b\"status\": \x7b\"on\": [ ]\x7d\x7d", false⟩ }]⟩ }
    h.client.Uncancelled (h.object.projectionQuery h.client (.pointer "/status/on"))
        (.ofSecs 1 9) w ∧
      w.EndsWith (h.object.projectionQuery h.client (.pointer "/status/on")) (.ofSecs 1 9) 4
        (.success "[]") (h.awaitField (.pointer "/status/on") .nonBlank (.ofSecs 1 9) w) := by
  intro h w
  let query := h.object.projectionQuery h.client (.pointer "/status/on")
  have calm : w.cluster.Calm := by decide
  have uncancelled := calm.uncancelled rfl h.client query (.ofSecs 1 9)
  have missing : Awaited.Lacks "/status/on" (.ok "\x7b\"status\": 3\x7d") := by
    have parsed : Json.parse "\x7b\"status\": 3\x7d" =
        .ok (.object [("status", .number (.whole 3))]) := by with_unfolding_all rfl
    refine ⟨⟨_, parsed⟩, ?_⟩
    rintro v ⟨document, parsed', selected⟩
    cases parsed.symm.trans parsed'
    cases selected
  have null : Awaited.Lacks "/status/on" (.ok "\x7b\"status\": \x7b\"on\": null\x7d\x7d") := by
    have parsed : Json.parse "\x7b\"status\": \x7b\"on\": null\x7d\x7d" =
        .ok (.object [("status", .object [("on", .null)])]) := by with_unfolding_all rfl
    refine ⟨⟨_, parsed⟩, ?_⟩
    rintro v ⟨document, parsed', selected⟩
    cases parsed.symm.trans parsed'
    cases selected
    exact id
  have shown : Projection.Shows "/status/on" "\x7b\"status\": \x7b\"on\": [ ]\x7d\x7d"
      (.array []) := by
    refine ⟨.object [("status", .object [("on", .array [])])], ?_, rfl⟩
    with_unfolding_all rfl
  have before : ∀ j < 4, Awaited.Lacks "/status/on" (w.replyAt query (.ofSecs 1 9) j).result := by
    intro j hj
    obtain rfl | rfl | rfl | rfl : j = 0 ∨ j = 1 ∨ j = 2 ∨ j = 3 := by omega
    · exact .inl rfl
    · exact .inr rfl
    · exact missing
    · exact null
  obtain ⟨-, ends⟩ := Handle.awaitField_of_pointer "/status/on"
  obtain ⟨text, given, ended⟩ :=
    ends h (.ofSecs 1 9) w uncancelled 4 (by decide) _ (.array []) rfl shown trivial before
  obtain ⟨rfl, -⟩ := given
  exact ⟨uncancelled, ended⟩

end Settle

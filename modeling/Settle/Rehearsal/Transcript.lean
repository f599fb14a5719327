import Settle.Json.Value
import Settle.Subprocess

/-!
# Transcripts

A machine that plays back how programs ended before, in that order, whatever is run. When nothing is
left to play back, no program is found.
-/

namespace Settle

open Json (Value)

/-- Reads how a program ended from an object with the members `exit`, `out` and `err`. Without an
exit code the program succeeded; a null one stands for a signal. -/
def Exit.ofJson (v : Value) : Exit :=
  let stream (key : String) : ByteArray :=
    (((v.member? key).bind Value.asString?).getD "").toUTF8
  let code : Option Int := match v.member? "exit" with
    | some (.number (.whole n)) => some n
    | some .null => none
    | _ => some 0
  { code, stdout := stream "out", stderr := stream "err" }

namespace Rehearsal

structure Transcript where
  left : List Exit
  ran : List Spawn := []

instance : Host Transcript where
  spawn p t :=
    match t.left with
    | [] => (.error .noSuchFile, t)
    | e :: rest => (.ok e, { left := rest, ran := p :: t.ran })

end Rehearsal

end Settle

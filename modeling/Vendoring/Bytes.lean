/-!
# Equality of byte strings

Two byte strings are equal if their arrays of bytes are. Everything in this library that compares
contents or names does it by the instance given here, so that equality means the same everywhere.
-/

set_option autoImplicit false

namespace Vendoring

/-- Equality of byte strings is decided on their arrays. -/
instance (priority := 2000) decideBytesEq : DecidableEq ByteArray := fun a b =>
  decidable_of_iff (a.data = b.data) ByteArray.ext_iff.symm

end Vendoring

/-
# HotSwap.Bytes -- byte strings

Payloads, frames and class files are byte strings.  Two are equal when they hold the
same bytes in the same order; every comparison in this library goes through the
instance named here.
-/
namespace HotSwap

set_option autoImplicit false

instance decidableEqBytes : DecidableEq ByteArray := ByteArray.instDecidableEq

end HotSwap

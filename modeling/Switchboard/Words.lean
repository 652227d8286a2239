/-!
# Numbers of 64 bits

The ranges of whole numbers that fit into 64 bits, with and without a sign.
-/

namespace Switchboard

/-- Whether a number fits into 64 bits without a sign. -/
def fitsUnsigned (n : Int) : Bool :=
  0 ≤ n && n ≤ 18446744073709551615

/-- Whether a number fits into 64 bits with a sign. -/
def fitsSigned (n : Int) : Bool :=
  -9223372036854775808 ≤ n && n ≤ 9223372036854775807

end Switchboard

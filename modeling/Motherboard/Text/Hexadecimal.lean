/-!
# Hexadecimal numbers in messages

Addresses are reported as `0x` and lower-case digits without leading zeros.
-/

namespace Motherboard.Text

/-- A number in lower-case hexadecimal after `0x`, without leading zeros. -/
def hexadecimal (n : Nat) : String :=
  "0x" ++ String.ofList (Nat.toDigits 16 n)

end Motherboard.Text

/-!
# Hexadecimal numbers

Machine words are written with the prefix `0x`, in lower case and without leading zeros.
-/

namespace ServiceBoundary.Hex

/-- the digits of a number, most significant first -/
def digits (n : Nat) : List Char := Nat.toDigits 16 n

def text (w : UInt64) : String := "0x" ++ String.ofList (digits w.toNat)

end ServiceBoundary.Hex

import MimeMail.Number.Rounding
import MimeMail.Text.Digits

namespace MimeMail.Text

def sizeUnits : List String := ["B", "KiB", "MiB", "GiB", "TiB", "PiB", "EiB"]

def sizeUnit (bytes : Nat) : Nat := min (bytes.log2 / 10) (sizeUnits.length - 1)

def ofSize (bytes : Nat) : Text :=
  let i := sizeUnit bytes
  let unit := Nat.pow 1024 i
  let number :=
    if bytes % unit == 0 then Digits.ofNat (bytes / unit)
    else
      let hundredths := roundDiv (bytes * 100) unit
      Digits.ofNat (hundredths / 100) ++ '.' :: Digits.padded 2 (hundredths % 100)
  number ++ ' ' :: (sizeUnits.getD i "").toList

end MimeMail.Text

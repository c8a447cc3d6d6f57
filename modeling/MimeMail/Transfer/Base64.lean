import MimeMail.Text.Basic

namespace MimeMail.Base64

def symbol (n : Nat) : Char :=
  if n < 26 then Char.ofNat (n + 'A'.toNat)
  else if n < 52 then Char.ofNat (n - 26 + 'a'.toNat)
  else if n < 62 then Char.ofNat (n - 52 + '0'.toNat)
  else if n == 62 then '+' else '/'

def value? (c : Char) : Option Nat :=
  if 'A' ≤ c && c ≤ 'Z' then some (c.toNat - 'A'.toNat)
  else if 'a' ≤ c && c ≤ 'z' then some (c.toNat - 'a'.toNat + 26)
  else if '0' ≤ c && c ≤ '9' then some (c.toNat - '0'.toNat + 52)
  else if c == '+' then some 62
  else if c == '/' then some 63
  else none

def encode : Bytes → Text
  | a :: b :: c :: r =>
    let n := (a.toNat * 256 + b.toNat) * 256 + c.toNat
    symbol (n / 0x40000) :: symbol (n / 0x1000 % 64) :: symbol (n / 64 % 64) :: symbol (n % 64)
      :: encode r
  | [a, b] =>
    let n := a.toNat * 256 + b.toNat
    [symbol (n / 0x400), symbol (n / 16 % 64), symbol (n % 16 * 4), '=']
  | [a] => [symbol (a.toNat / 4), symbol (a.toNat % 4 * 16), '=', '=']
  | [] => []

def ofGroups : List Nat → Option Bytes
  | a :: b :: c :: d :: r =>
    let n := ((a * 64 + b) * 64 + c) * 64 + d
    (ofGroups r).map fun bs =>
      UInt8.ofNat (n / 0x10000) :: UInt8.ofNat (n / 0x100) :: UInt8.ofNat n :: bs
  | [a, b, c] =>
    let n := (a * 64 + b) * 64 + c
    some [UInt8.ofNat (n / 0x400), UInt8.ofNat (n / 4)]
  | [a, b] => some [UInt8.ofNat ((a * 64 + b) / 16)]
  | [_] => none
  | [] => some []

def decode? (t : Text) : Option Bytes :=
  let symbols := t.takeWhile (· != '=')
  let padding := t.dropWhile (· != '=')
  if padding.all (· == '=') && padding.length ≤ (4 - symbols.length % 4) % 4 then
    (symbols.mapM value?).bind ofGroups
  else none

end MimeMail.Base64

import MimeMail.Text.Basic

namespace MimeMail

inductive DoubleByte where
  | gbk
  | gb18030
  | big5
  | eucJp
  | shiftJis
  | eucKr
  deriving DecidableEq

/-- The charset library, as far as it depends on tables of characters that two bytes or more stand
for. -/
class Charset.Library where
  decode : DoubleByte → Bytes → Text
  jisX0208? : UInt8 → UInt8 → Option Char
  decode_ascii : ∀ (set : DoubleByte) (bs : Bytes), (∀ b ∈ bs, b < 0x80) →
    decode set bs = bs.map fun b => Char.ofNat b.toNat

/-- A library without tables. It reads ASCII as every library does, and no other character. -/
instance Charset.Library.withoutTables : Charset.Library where
  decode _ bs := bs.map fun b => if b < 0x80 then Char.ofNat b.toNat else '\uFFFD'
  jisX0208? _ _ := none
  decode_ascii _ _ h := List.map_congr_left fun b hb => if_pos (h b hb)

end MimeMail

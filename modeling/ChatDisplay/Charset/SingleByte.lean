import ChatDisplay.Charset.Encoding
import ChatDisplay.Charset.Table.Windows
import ChatDisplay.Charset.Table.Latin
import ChatDisplay.Charset.Table.Legacy

namespace ChatDisplay.Charset

/-- The code points of the bytes 0x80 to 0xff, for an encoding with one byte for each character. The
user-defined encoding keeps these bytes apart in the private use area. -/
def upperHalf? : Encoding → Option (List Nat)
  | .windows874 => some Table.windows874
  | .windows1250 => some Table.windows1250
  | .windows1251 => some Table.windows1251
  | .windows1252 => some Table.windows1252
  | .windows1253 => some Table.windows1253
  | .windows1254 => some Table.windows1254
  | .windows1255 => some Table.windows1255
  | .windows1256 => some Table.windows1256
  | .windows1257 => some Table.windows1257
  | .windows1258 => some Table.windows1258
  | .iso8859_2 => some Table.iso8859_2
  | .iso8859_3 => some Table.iso8859_3
  | .iso8859_4 => some Table.iso8859_4
  | .iso8859_5 => some Table.iso8859_5
  | .iso8859_6 => some Table.iso8859_6
  | .iso8859_7 => some Table.iso8859_7
  | .iso8859_8 => some Table.iso8859_8
  | .iso8859_8I => some Table.iso8859_8
  | .iso8859_10 => some Table.iso8859_10
  | .iso8859_13 => some Table.iso8859_13
  | .iso8859_14 => some Table.iso8859_14
  | .iso8859_15 => some Table.iso8859_15
  | .iso8859_16 => some Table.iso8859_16
  | .koi8R => some Table.koi8R
  | .koi8U => some Table.koi8U
  | .ibm866 => some Table.ibm866
  | .macintosh => some Table.macintosh
  | .macCyrillic => some Table.macCyrillic
  | .userDefined => some ((List.range 0x80).map (0xf780 + ·))
  | _ => none

def replacement : Char := '\uFFFD'

/-- The character of a byte, where `upper` lists the code points from byte 0x80 on. -/
def byteChar (upper : List Nat) (b : UInt8) : Char :=
  if b < 0x80 then Char.ofNat b.toNat
  else match upper[b.toNat - 0x80]? with
    | some n => Char.ofNat n
    | none => replacement

end ChatDisplay.Charset

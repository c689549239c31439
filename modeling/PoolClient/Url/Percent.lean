import PoolClient.Number.Based
import PoolClient.Text.Utf8
/-!
# Percent-encoding

A character that may not stand in a part of a URL is written as its UTF-8 bytes, each as a
percent sign and two hexadecimal digits. Which characters may stand depends on the part:
`standsInPath` and `standsInQuery`.
-/

namespace PoolClient.Url

open Number Text

/-- The upper-case hexadecimal digit of value `d`. -/
def hexDigit (d : Nat) : Char :=
  if d < 10 then Char.ofNat (48 + d) else Char.ofNat (55 + d)

/-- A byte as a percent sign and two digits. -/
def escapedByte (b : UInt8) : List Char :=
  ['%', hexDigit (b.toNat / 16), hexDigit (b.toNat % 16)]

/-- `cs` with every character escaped that may not stand. -/
def escaped (stands : Char → Bool) (cs : List Char) : List Char :=
  cs.flatMap fun c => if stands c then [c] else (String.utf8EncodeChar c).flatMap escapedByte

/-- A printable ASCII character other than the space. -/
def isVisible (c : Char) : Bool :=
  0x20 < c.toNat && c.toNat < 0x7f

/-- Whether `c` stands as it is in a path. -/
def standsInPath (c : Char) : Bool :=
  isVisible c && !(['"', '#', '<', '>', '?', '`', '\x7b', '\x7d'].contains c)

/-- Whether `c` stands as it is in a query. -/
def standsInQuery (c : Char) : Bool :=
  isVisible c && !(['"', '#', '<', '>', '\''].contains c)

/-- The bytes of a text after its escapes are undone. A percent sign without two hexadecimal
digits stands for itself. -/
def unescaped : List Char → List UInt8
  | '%' :: a :: b :: rest =>
    match hexValue? a, hexValue? b with
    | some x, some y => UInt8.ofNat (16 * x + y) :: unescaped rest
    | _, _ => 0x25 :: unescaped (a :: b :: rest)
  | c :: rest => String.utf8EncodeChar c ++ unescaped rest
  | [] => []

end PoolClient.Url

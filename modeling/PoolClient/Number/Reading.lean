import PoolClient.Number.Numeral
/-!
# Reading doubles

`double?` reads a decimal with optional sign, fraction and exponent, where either side of the
point may be empty but not both, and the words `inf`, `infinity` and `nan` in any case. The
result is the nearest double; what is too large becomes infinite.
-/

namespace PoolClient.Number

/-- The digits at the start of a text, and the rest. -/
def spanDigits (cs : List Char) : List Char × List Char :=
  (cs.takeWhile Char.isDigit, cs.dropWhile Char.isDigit)

/-- The exponent after the mantissa: nothing, or `e`, an optional sign and digits. -/
def exponent? : List Char → Option Int
  | [] => some 0
  | c :: rest => if c == 'e' || c == 'E' then integer? rest else none

/-- Whole part, fraction and exponent of an unsigned decimal. -/
def decimalParts? (cs : List Char) : Option (List Char × List Char × Int) :=
  let (whole, rest) := spanDigits cs
  let (fraction, rest) := match rest with
    | '.' :: rest => spanDigits rest
    | rest => ([], rest)
  if whole.isEmpty && fraction.isEmpty then none
  else (exponent? rest).map fun e => (whole, fraction, e)

/-- The double nearest to `n * 10 ^ power`. Powers at which the answer is certainly zero or
infinite are not computed. -/
def scaled (n : Nat) (power : Int) : Float :=
  let size := (digits n).length + power
  if n = 0 || size < -400 then 0.0
  else if 400 < size then Float.ofBits 0x7ff0000000000000
  else Float.ofScientific n (power < 0) power.natAbs

/-- An unsigned double. -/
def magnitude? (cs : List Char) : Option Float :=
  let word := String.ofList (cs.map Char.toLower)
  if word == "inf" || word == "infinity" then some (Float.ofBits 0x7ff0000000000000)
  else if word == "nan" then some (Float.ofBits 0x7ff8000000000000)
  else (decimalParts? cs).map fun (whole, fraction, e) =>
    scaled (natOfDigits (whole ++ fraction)) (e - fraction.length)

/-- The double that `cs` denotes. -/
def double? (cs : List Char) : Option Float :=
  let (negative, rest) := splitSign cs
  (magnitude? rest).map fun x => if negative then -x else x

end PoolClient.Number

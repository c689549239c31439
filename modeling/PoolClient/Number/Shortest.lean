import PoolClient.Number.Numeral
/-!
# The shortest decimal of a double

A finite double is `m * 2 ^ q` for natural `m`, and `Binary.ofBits` takes it apart. All real
numbers of an interval around it round to it, the ends included when `m` is even. `shortest`
walks down the decimal grids `10 ^ k` and stops at the first that has a point in the interval:
this is the decimal with the fewest digits, and of two points on that grid the nearer one is
taken, an exact tie going up. `doubleText` writes it in positional notation.
-/

namespace PoolClient.Number

/-- The positive number `mantissa * 2 ^ exponent`. At the foot of a binade the gap below it is
half the gap above. -/
structure Binary where
  mantissa : Nat
  exponent : Int
  atFoot : Bool
  deriving DecidableEq, Repr

/-- The magnitude of the finite double with the given bit pattern. -/
def Binary.ofBits (bits : UInt64) : Binary :=
  let fraction := bits.toNat % Nat.pow 2 52
  let biased := bits.toNat / Nat.pow 2 52 % Nat.pow 2 11
  if biased = 0 then ⟨fraction, -1074, false⟩
  else ⟨Nat.pow 2 52 + fraction, (biased : Int) - 1075, fraction = 0 && biased ≠ 1⟩

/-- The decimal `coefficient * 10 ^ power`. -/
structure Decimal where
  coefficient : Nat
  power : Int
  deriving DecidableEq, Repr

/-- Four times the mantissa, and the ends of the interval that rounds to it, in quarters. -/
def Binary.interval (b : Binary) : Nat × Nat × Nat :=
  (4 * b.mantissa - (if b.atFoot then 1 else 2), 4 * b.mantissa, 4 * b.mantissa + 2)

/-- The factors `(a, c)` for which `d * 10 ^ k` and `x * 2 ^ (q - 2)` compare as `d * a` and
`x * c`. -/
def commonScale (k q : Int) : Nat × Nat :=
  (Nat.pow 10 k.toNat * Nat.pow 2 (2 - q).toNat, Nat.pow 2 (q - 2).toNat * Nat.pow 10 (-k).toNat)

/-- The point of the grid `10 ^ k` that rounds to `b` and is nearest to it, if there is one. -/
def Binary.onGrid (b : Binary) (k : Int) : Option Nat :=
  let (low, middle, high) := b.interval
  let (a, c) := commonScale k b.exponent
  let inside (d : Nat) : Bool :=
    if b.mantissa % 2 = 0 then low * c ≤ d * a && d * a ≤ high * c
    else low * c < d * a && d * a < high * c
  let below := middle * c / a
  match inside below, inside (below + 1) with
  | true, true =>
    some (if middle * c - below * a < (below + 1) * a - middle * c then below else below + 1)
  | true, false => some below
  | false, true => some (below + 1)
  | false, false => none

/-- The first grid at or below `10 ^ k` with a point for `b`, looking at `n` grids. -/
def Binary.search (b : Binary) : Nat → Int → Decimal
  | 0, k => ⟨0, k⟩
  | n + 1, k =>
    match b.onGrid k with
    | some d => ⟨d, k⟩
    | none => b.search n (k - 1)

/-- The decimal with the fewest digits that rounds to `b`. The search starts above the number,
and twenty grids reach the seventeen digits that always suffice. -/
def Binary.shortest (b : Binary) : Decimal :=
  b.search 20 ((b.exponent + Nat.log2 b.mantissa + 1) * 30103 / 100000 + 1)

/-- Positional notation, without an exponent and without a fraction of zero. -/
def Decimal.positional (d : Decimal) : List Char :=
  let ds := digits d.coefficient
  if 0 ≤ d.power then ds ++ List.replicate d.power.toNat '0'
  else
    let places := (-d.power).toNat
    if places < ds.length then
      ds.take (ds.length - places) ++ ['.'] ++ ds.drop (ds.length - places)
    else ['0', '.'] ++ List.replicate (places - ds.length) '0' ++ ds

/-- The text of a double: the shortest decimal that reads back, `inf` and `NaN`. Zero keeps
its sign. -/
def doubleText (x : Float) : String :=
  if x.isNaN then "NaN"
  else
    let bits := x.toBits
    let sign := if Nat.pow 2 63 ≤ bits.toNat then ['-'] else []
    if x.isInf then String.ofList (sign ++ ['i', 'n', 'f'])
    else
      let b := Binary.ofBits bits
      String.ofList (sign ++ if b.mantissa = 0 then ['0'] else b.shortest.positional)

end PoolClient.Number

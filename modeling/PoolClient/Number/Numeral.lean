/-!
# Decimal numerals

A numeral is one or more ASCII digits, and a signed numeral may carry one `+` or `-` in front.
`integer?` reads a signed numeral of any length, `int64?` and `natural?` only those that fit,
and `digits` writes a natural number. `natOfDigits_digits` says that what is written reads back.
-/

namespace PoolClient.Number

/-- The number whose decimal digits are `cs`. -/
def natOfDigits (cs : List Char) : Nat :=
  cs.foldl (fun n c => 10 * n + (c.toNat - 48)) 0

/-- One or more ASCII digits. -/
def isNumeral (cs : List Char) : Bool :=
  !cs.isEmpty && cs.all Char.isDigit

/-- A leading sign, if there is one, and what follows: `true` stands for minus. -/
def splitSign : List Char → Bool × List Char
  | '-' :: rest => (true, rest)
  | '+' :: rest => (false, rest)
  | cs => (false, cs)

/-- The integer that a signed numeral denotes. -/
def integer? (cs : List Char) : Option Int :=
  let (negative, ds) := splitSign cs
  if isNumeral ds then
    some (if negative then -(natOfDigits ds : Int) else natOfDigits ds)
  else none

/-- Whether `n` is a signed 64-bit integer. -/
def fitsInt64 (n : Int) : Bool :=
  -9223372036854775808 ≤ n && n ≤ 9223372036854775807

/-- The signed 64-bit integer that a signed numeral denotes, if it is one. -/
def int64? (cs : List Char) : Option Int64 :=
  match integer? cs with
  | some n => if fitsInt64 n then some (Int64.ofInt n) else none
  | none => none

/-- The natural number up to `limit` that a numeral, perhaps with a `+`, denotes. -/
def natural? (limit : Nat) (cs : List Char) : Option Nat :=
  let ds := match cs with
    | '+' :: rest => rest
    | cs => cs
  if isNumeral ds && natOfDigits ds ≤ limit then some (natOfDigits ds) else none

/-- The ASCII digit of value `d`. -/
def digit (d : Nat) : Char :=
  Char.ofNat (48 + d)

/-- The decimal digits of `n`, without leading zeros. -/
def digits (n : Nat) : List Char :=
  if n < 10 then [digit n] else digits (n / 10) ++ [digit (n % 10)]
decreasing_by omega

/-- The decimal text of `n`. -/
def naturalText (n : Nat) : String :=
  String.ofList (digits n)

/-- The decimal text of `n`, with a minus in front of a negative number. -/
def integerText (n : Int) : String :=
  String.ofList (if n < 0 then '-' :: digits n.natAbs else digits n.natAbs)

/-- The decimal text of `n`. -/
def int64Text (n : Int64) : String :=
  integerText n.toInt

/-- `n` in at least `width` digits, filled with zeros. -/
def padded (width n : Nat) : List Char :=
  let ds := digits n
  List.replicate (width - ds.length) '0' ++ ds

/-! ## Writing and reading -/

theorem natOfDigits_append_singleton (cs : List Char) (c : Char) :
    natOfDigits (cs ++ [c]) = 10 * natOfDigits cs + (c.toNat - 48) := by
  simp [natOfDigits]

theorem toNat_digit {d : Nat} (h : d < 10) : (digit d).toNat = 48 + d := by
  match d, h with
  | 0, _ | 1, _ | 2, _ | 3, _ | 4, _ | 5, _ | 6, _ | 7, _ | 8, _ | 9, _ => rfl

theorem natOfDigits_digits (n : Nat) : natOfDigits (digits n) = n := by
  fun_induction digits n with
  | case1 n h => simp [natOfDigits, toNat_digit h]
  | case2 n h ih =>
    rw [natOfDigits_append_singleton, ih, toNat_digit (Nat.mod_lt _ (by omega))]
    omega

end PoolClient.Number

/-!
# Digits of other bases

`hexValue?` gives the value of a hexadecimal digit, which also serves the smaller bases, and
`numberIn` reads a number in a base up to sixteen.
-/

namespace PoolClient.Number

/-- The value of a hexadecimal digit. -/
def hexValue? (c : Char) : Option Nat :=
  let n := c.toNat
  if 48 ≤ n && n ≤ 57 then some (n - 48)
  else if 65 ≤ n && n ≤ 70 then some (n - 55)
  else if 97 ≤ n && n ≤ 102 then some (n - 87)
  else none

/-- The number with some digits in a base, if they are digits of that base. -/
def numberIn (base : Nat) (ds : List Char) : Option Nat :=
  ds.foldlM (fun n c =>
    match hexValue? c with
    | some d => if d < base then some (base * n + d) else none
    | none => none) 0

end PoolClient.Number

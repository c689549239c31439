import PoolClient.Number.Based
import PoolClient.Text.Pieces
/-!
# Tables of characters

What is known about single characters is kept in tables of hexadecimal numbers. A table is a list
of lines, and a line is a list of rows with commas between them.
-/

namespace PoolClient.Unicode

open Number Text

/-- The numbers in a row of a table. -/
abbrev Row := List Nat

/-- The rows of a table. -/
def rows (lines : List String) : List Row :=
  lines.flatMap fun line => (pieces ',' line.toList).map fun row =>
    (pieces ' ' row).filterMap (numberIn 16)

/-- Whether a row is a range that holds a number. A single number is a range of its own. -/
def Row.holds (n : Nat) : Row → Bool
  | [single] => single == n
  | [first, last] => first ≤ n && n ≤ last
  | _ => false

/-- Whether some range of a table holds a number. -/
def inRows (table : List Row) (n : Nat) : Bool :=
  table.any (Row.holds n)

end PoolClient.Unicode

/-!
# Blanks

`isBlank` is the Unicode property `White_Space`, and `trim` takes blanks off both ends of a
text. `isAsciiBlank` is the smaller set that may be scattered through base64 text, and
`isMarkupBlank` the four characters that separate the parts of a tag.
-/

namespace PoolClient.Text

/-- Whether `c` is white space by the Unicode property `White_Space`. -/
def isBlank (c : Char) : Bool :=
  let n := c.toNat
  (9 ≤ n && n ≤ 13) || n == 0x20 || n == 0x85 || n == 0xa0 || n == 0x1680 ||
    (0x2000 ≤ n && n ≤ 0x200a) || n == 0x2028 || n == 0x2029 || n == 0x202f || n == 0x205f ||
    n == 0x3000

/-- Space, tab, line feed, form feed and carriage return. -/
def isAsciiBlank (c : Char) : Bool :=
  c == ' ' || c == '\t' || c == '\n' || c == '\x0c' || c == '\r'

/-- The white space of markup: space, tab, line feed and carriage return. -/
def isMarkupBlank (c : Char) : Bool :=
  c == ' ' || c == '\t' || c == '\n' || c == '\r'

/-- `cs` without the characters of class `p` at its end. -/
def dropEndWhile (p : Char → Bool) (cs : List Char) : List Char :=
  (cs.reverse.dropWhile p).reverse

/-- `cs` without blanks at its start and end. -/
def trim (cs : List Char) : List Char :=
  dropEndWhile isBlank (cs.dropWhile isBlank)

/-- `s` without blanks at its start and end. -/
def trimmed (s : String) : String :=
  String.ofList (trim s.toList)

end PoolClient.Text

import PoolClient.Number.Based
import PoolClient.Number.Numeral
/-!
# Entities

`escape` writes the five characters that markup reserves as named references. `unescape` reads
these five names and numeric references, decimal or hexadecimal, and refuses everything else
that starts with an ampersand. `unescape_escape` says that what is written reads back.
-/

namespace PoolClient.Markup

open PoolClient.Number

/-- One character of escaped text. -/
def escapeChar (c : Char) : List Char :=
  match c with
  | '<' => "&lt;".toList
  | '>' => "&gt;".toList
  | '\'' => "&apos;".toList
  | '&' => "&amp;".toList
  | '"' => "&quot;".toList
  | c => [c]

/-- `cs` with the reserved characters replaced by references. -/
def escape (cs : List Char) : List Char :=
  cs.flatMap escapeChar

theorem escape_append (cs cs' : List Char) : escape (cs ++ cs') = escape cs ++ escape cs' :=
  List.flatMap_append

/-- The code point that a numeric reference names, written in at most seven decimal digits, or
`x` and at most six hexadecimal ones. -/
def codePoint? (cs : List Char) : Option Nat :=
  match cs with
  | 'x' :: hex => if hex.length ≤ 6 then numberIn 16 hex else none
  | ds => if ds.length ≤ 7 ∧ ds.all Char.isDigit then some (natOfDigits ds) else none

/-- The character that a reference names, between `&` and `;`. -/
def reference? (name : List Char) : Option Char :=
  match name with
  | '#' :: number =>
    match codePoint? number with
    | some n => if n ≠ 0 ∧ n.isValidChar then some (Char.ofNat n) else none
    | none => none
  | name =>
    if name = "lt".toList then some '<'
    else if name = "gt".toList then some '>'
    else if name = "amp".toList then some '&'
    else if name = "apos".toList then some '\''
    else if name = "quot".toList then some '"'
    else none

/-- Read on with `name`, in reverse, as the reference begun, or outside a reference. -/
def unescapeFrom : Option (List Char) → List Char → Option (List Char)
  | none, [] => some []
  | some _, [] => none
  | none, c :: rest =>
    if c = '&' then unescapeFrom (some []) rest else (unescapeFrom none rest).map (c :: ·)
  | some name, c :: rest =>
    if c = ';' then
      match reference? name.reverse with
      | some d => (unescapeFrom none rest).map (d :: ·)
      | none => none
    else if c = '&' then none
    else unescapeFrom (some (c :: name)) rest

/-- `cs` with every reference replaced by its character; `none` if an ampersand starts no known
reference. -/
def unescape (cs : List Char) : Option (List Char) :=
  unescapeFrom none cs

/-! ## Writing and reading -/

theorem unescape_escapeChar_append (c : Char) (cs : List Char) :
    unescape (escapeChar c ++ cs) = (unescape cs).map (c :: ·) := by
  unfold escapeChar unescape
  split
  case h_6 h _ =>
    simp only [List.singleton_append, unescapeFrom]
    rw [if_neg]
    simpa using h
  all_goals simp [unescapeFrom, reference?]

theorem unescape_escape (cs : List Char) : unescape (escape cs) = some cs := by
  induction cs with
  | nil => rfl
  | cons c cs ih =>
    rw [escape, List.flatMap_cons, unescape_escapeChar_append]
    rw [escape] at ih
    simp [ih]

end PoolClient.Markup

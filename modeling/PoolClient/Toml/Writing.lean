import PoolClient.Number.Numeral
import PoolClient.Text.Quoted
/-!
# Writing TOML

A text is written on one line, or on many if it has line breaks. If that saves escapes of quotes
or backslashes and nothing else stands against it, it is written as a literal string.
-/

namespace PoolClient.Toml

open Text

/-- A control character. -/
def isControl (c : Char) : Bool :=
  c.toNat < 0x20 || c.toNat == 0x7f

/-- Whether three single quotes stand in a row. -/
def hasThreeQuotes : List Char → Bool
  | '\'' :: '\'' :: '\'' :: _ => true
  | _ :: rest => hasThreeQuotes rest
  | [] => false

/-- Whether a text can be written as a literal string. -/
def fitsLiteral (cs : List Char) : Bool :=
  !hasThreeQuotes cs && cs.getLast? != some '\'' &&
    cs.all fun c => c == '\t' || c == '\n' || !isControl c

/-- Whether a text is written as a literal string. -/
def prefersLiteral (cs : List Char) : Bool :=
  (cs.contains '"' || cs.contains '\\') && fitsLiteral cs

/-- One character of a string with escapes. -/
def escapedChar (multiline : Bool) (c : Char) : List Char :=
  match c with
  | '\x08' => ['\\', 'b']
  | '\t' => ['\\', 't']
  | '\n' => if multiline then ['\n'] else ['\\', 'n']
  | '\x0c' => ['\\', 'f']
  | '\r' => ['\\', 'r']
  | '"' => ['\\', '"']
  | '\\' => ['\\', '\\']
  | c =>
    if isControl c then
      let ds := (hexadecimal c.toNat).map Char.toUpper
      '\\' :: 'u' :: List.replicate (4 - ds.length) '0' ++ ds
    else [c]

/-- A text as a string. -/
def textLiteral (s : String) : String :=
  let cs := s.toList
  let multiline := cs.contains '\n'
  if prefersLiteral cs then
    if multiline then "'''\n" ++ s ++ "'''"
    else if cs.contains '\'' then "'''" ++ s ++ "'''"
    else "'" ++ s ++ "'"
  else
    let inner := String.ofList (cs.flatMap (escapedChar multiline))
    if multiline then "\"\"\"\n" ++ inner ++ "\"\"\"" else "\"" ++ inner ++ "\""

/-- Texts as an array on one line. -/
def textsLiteral (texts : List String) : String :=
  "[" ++ ", ".intercalate (texts.map textLiteral) ++ "]"

/-- An entry with a bare name. -/
def entryLine (name literal : String) : String :=
  name ++ " = " ++ literal ++ "\n"

/-- A table with a bare name, after other entries. -/
def tableText (name : String) (lines : List String) : String :=
  "\n[" ++ name ++ "]\n" ++ String.join lines

end PoolClient.Toml

import PoolClient.Number.Based
/-!
# TOML strings

There are four kinds of strings: with escapes or literal, and on one line or on many. One
machine reads all of them: `step` takes a character in a `Mode` and says what it adds to the
text, and `body` runs it up to the closing quotes. `string?` and `keyString?` find out which
kind begins.
-/

namespace PoolClient.Toml

/-- A kind of string. -/
structure Quoting where
  literal : Bool
  multiline : Bool
  deriving DecidableEq, Repr

/-- The quote of a kind of string. -/
def Quoting.mark (q : Quoting) : Char :=
  if q.literal then '\'' else '"'

/-- Where the machine is: in plain text, after some quotes in a row, behind the closing quote,
after a carriage return, after a backslash, in the digits of an escape, or in the blanks that a
backslash at the end of a line hides, before and after the line break. -/
inductive Mode where
  | plain
  | quotes (n : Nat)
  | closed
  | carriage
  | backslash
  | digits (missing value : Nat)
  | hiding
  | hidingCarriage
  | hidden
  deriving DecidableEq, Repr

/-- Whether `c` may stand in a string or a comment. -/
def isTextual (c : Char) : Bool :=
  c == '\t' || (0x20 ≤ c.toNat && c.toNat != 0x7f)

/-- The character that a single letter escapes. -/
def escapedLetter? (c : Char) : Option Char :=
  match c with
  | 'b' => some '\x08'
  | 't' => some '\t'
  | 'n' => some '\n'
  | 'f' => some '\x0c'
  | 'r' => some '\r'
  | '"' => some '"'
  | '\\' => some '\\'
  | _ => none

/-- The character with the given code point. -/
def scalar? (n : Nat) : Option Char :=
  if n.isValidChar then some (Char.ofNat n) else none

/-- A character in plain text. -/
def plainStep (q : Quoting) (c : Char) : Option (List Char × Mode) :=
  if c == q.mark then some ([], if q.multiline then .quotes 1 else .closed)
  else if c == '\\' && !q.literal then some ([], .backslash)
  else if c == '\n' && q.multiline then some ([c], .plain)
  else if c == '\r' && q.multiline then some ([], .carriage)
  else if isTextual c then some ([c], .plain)
  else none

/-- What a character adds to the text, and the mode after it. -/
def step (q : Quoting) (mode : Mode) (c : Char) : Option (List Char × Mode) :=
  match mode with
  | .plain => plainStep q c
  | .quotes n =>
    if c == q.mark then some ([], .quotes (n + 1))
    else (plainStep q c).map fun (out, next) => (List.replicate n q.mark ++ out, next)
  | .closed => none
  | .carriage => if c == '\n' then some ([c], .plain) else none
  | .backslash =>
    if c == 'u' then some ([], .digits 4 0)
    else if c == 'U' then some ([], .digits 8 0)
    else if q.multiline && (c == ' ' || c == '\t') then some ([], .hiding)
    else if q.multiline && c == '\n' then some ([], .hidden)
    else if q.multiline && c == '\r' then some ([], .hidingCarriage)
    else (escapedLetter? c).map fun d => ([d], .plain)
  | .digits missing value =>
    match Number.hexValue? c with
    | none => none
    | some d =>
      if missing ≤ 1 then (scalar? (16 * value + d)).map fun c => ([c], .plain)
      else some ([], .digits (missing - 1) (16 * value + d))
  | .hiding =>
    if c == ' ' || c == '\t' then some ([], .hiding)
    else if c == '\n' then some ([], .hidden)
    else if c == '\r' then some ([], .hidingCarriage)
    else none
  | .hidingCarriage => if c == '\n' then some ([], .hidden) else none
  | .hidden =>
    if c == ' ' || c == '\t' || c == '\n' then some ([], .hidden)
    else if c == '\r' then some ([], .hidingCarriage)
    else plainStep q c

/-- What is left to add if the string is over before the next character. Of more than three
quotes in a row, at most two belong to the text. -/
def ending? (q : Quoting) (mode : Mode) (next : Option Char) : Option (List Char) :=
  match mode with
  | .closed => some []
  | .quotes n =>
    if 5 ≤ n || (3 ≤ n && next != some q.mark) then some (List.replicate (n - 3) q.mark) else none
  | _ => none

/-- The rest of a string, and what follows it. -/
def body (q : Quoting) (mode : Mode) : List Char → Option (List Char × List Char)
  | [] => (ending? q mode none).map fun out => (out, [])
  | c :: rest =>
    match ending? q mode (some c) with
    | some out => some (out, c :: rest)
    | none =>
      match step q mode c with
      | none => none
      | some (out, next) =>
        match body q next rest with
        | none => none
        | some (more, after) => some (out ++ more, after)

/-- A string after its opening quotes. A line break right behind three quotes does not count. -/
def content (q : Quoting) (cs : List Char) : Option (String × List Char) :=
  let cs := match q.multiline, cs with
    | true, '\n' :: rest => rest
    | true, '\r' :: '\n' :: rest => rest
    | _, cs => cs
  (body q .plain cs).map fun (text, rest) => (String.ofList text, rest)

/-- A string on one line. -/
def keyString? : List Char → Option (String × List Char)
  | '"' :: rest => content ⟨false, false⟩ rest
  | '\'' :: rest => content ⟨true, false⟩ rest
  | _ => none

/-- A string of any kind. -/
def string? : List Char → Option (String × List Char)
  | '"' :: '"' :: '"' :: rest => content ⟨false, true⟩ rest
  | '\'' :: '\'' :: '\'' :: rest => content ⟨true, true⟩ rest
  | cs => keyString? cs

end PoolClient.Toml

import PoolClient.Toml.Assembly
import PoolClient.Toml.Quoting
import PoolClient.Toml.Scalar
/-!
# Reading TOML

`read?` reads a TOML 1.0 document. Values nest at most 127 deep, and a dotted key has at most 127
names. Functions that call each other take a bound on their steps; every step of them takes a
character or goes one value deeper, so a bound of twice the length of the text suffices.
-/

namespace PoolClient.Toml

/-! ## Gaps -/

/-- A space or a tab. -/
def isGap (c : Char) : Bool :=
  c == ' ' || c == '\t'

/-- What follows blanks, line breaks and comments. Where a comment is malformed, it is left. -/
def afterGaps (inComment : Bool) : List Char → List Char
  | [] => []
  | '\r' :: '\n' :: rest => afterGaps false rest
  | c :: rest =>
    if c == '\n' then afterGaps false rest
    else if inComment then if isTextual c then afterGaps true rest else c :: rest
    else if isGap c then afterGaps false rest
    else if c == '#' then afterGaps true rest
    else c :: rest

/-- What follows the end of a line, before which only blanks and a comment may stand. -/
def afterLine? (inComment : Bool) : List Char → Option (List Char)
  | [] => some []
  | '\r' :: '\n' :: rest => some rest
  | c :: rest =>
    if c == '\n' then some rest
    else if inComment then if isTextual c then afterLine? true rest else none
    else if isGap c then afterLine? false rest
    else if c == '#' then afterLine? true rest
    else none

/-! ## Keys -/

/-- How deep values nest, and how many names a key has, at most. -/
def depthLimit : Nat := 127

/-- Whether `c` may stand in a name without quotes. -/
def isBare (c : Char) : Bool :=
  c.isAlphanum || c == '_' || c == '-'

/-- One name of a key. -/
def name? (cs : List Char) : Option (String × List Char) :=
  match keyString? cs with
  | some r => some r
  | none =>
    let name := cs.takeWhile isBare
    if name.isEmpty then none else some (String.ofList name, cs.dropWhile isBare)

/-- The names of a key, at most `n` of them, and what follows the blanks after it. -/
def key? : Nat → List Char → Option (List String × List Char)
  | 0, _ => none
  | n + 1, cs =>
    match name? cs with
    | none => none
    | some (name, rest) =>
      match rest.dropWhile isGap with
      | '.' :: rest => (key? n (rest.dropWhile isGap)).map fun (names, rest) => (name :: names, rest)
      | rest => some ([name], rest)

/-- A key and the sign of equality after it. -/
def keyOfEntry? (cs : List Char) : Option (List String × List Char) :=
  match key? depthLimit cs with
  | some (path, '=' :: rest) => some (path, rest.dropWhile isGap)
  | _ => none

/-! ## Values -/

mutual

/-- A value, in which values may nest `depth` deep, and what follows it. -/
def value? : Nat → Nat → List Char → Option (Item × List Char)
  | 0, _, _ => none
  | n + 1, depth, cs =>
    match cs with
    | '[' :: rest => if depth = 0 then none else items? n (depth - 1) [] rest
    | '\x7b' :: rest =>
      if depth = 0 then none
      else
        match rest.dropWhile isGap with
        | '\x7d' :: rest => some (.table .braces [], rest)
        | rest => pairs? n (depth - 1) [] rest
    | '"' :: _ => (string? cs).map fun (s, rest) => (.text s, rest)
    | '\'' :: _ => (string? cs).map fun (s, rest) => (.text s, rest)
    | _ => word? cs

/-- The rest of an array, after the bracket or a comma. The items so far stand in reverse. -/
def items? : Nat → Nat → List Item → List Char → Option (Item × List Char)
  | 0, _, _, _ => none
  | n + 1, depth, done, cs =>
    match afterGaps false cs with
    | ']' :: rest => some (.array done.reverse, rest)
    | cs =>
      match value? n depth cs with
      | none => none
      | some (item, rest) =>
        match afterGaps false rest with
        | ',' :: rest => items? n depth (item :: done) rest
        | ']' :: rest => some (.array (item :: done).reverse, rest)
        | _ => none

/-- The rest of a table in braces, at an entry. The entries so far stand in reverse. -/
def pairs? : Nat → Nat → List (List String × Item) → List Char → Option (Item × List Char)
  | 0, _, _, _ => none
  | n + 1, depth, done, cs =>
    match keyOfEntry? cs with
    | none => none
    | some (path, rest) =>
      match value? n depth rest with
      | none => none
      | some (item, rest) =>
        let done := (path, item) :: done
        match rest.dropWhile isGap with
        | ',' :: rest => pairs? n depth done (rest.dropWhile isGap)
        | '\x7d' :: rest => (inBraces done.reverse).map fun es => (.table .braces es, rest)
        | _ => none

end

/-! ## Documents -/

/-- A statement, and what follows it. -/
def statement? (cs : List Char) : Option (Statement × List Char) :=
  match cs with
  | '[' :: '[' :: rest =>
    match key? depthLimit (rest.dropWhile isGap) with
    | some (path, ']' :: ']' :: rest) => some (.element path, rest)
    | _ => none
  | '[' :: rest =>
    match key? depthLimit (rest.dropWhile isGap) with
    | some (path, ']' :: rest) => some (.table path, rest)
    | _ => none
  | _ =>
    match keyOfEntry? cs with
    | some (path, rest) =>
      (value? (2 * rest.length + 2) depthLimit rest).map fun (item, rest) => (.entry path item, rest)
    | none => none

/-- The statements of a document, at most `n` of them. -/
def statements? : Nat → List Char → Option (List Statement)
  | 0, _ => none
  | n + 1, cs =>
    match afterGaps false cs with
    | [] => some []
    | cs =>
      match statement? cs with
      | none => none
      | some (s, rest) =>
        match afterLine? false rest with
        | none => none
        | some rest => (statements? n rest).map (s :: ·)

/-- The root table of a document. A mark of the byte order in front does not count. -/
def read? (text : String) : Option Entries :=
  let cs := match text.toList with
    | '\ufeff' :: rest => rest
    | cs => cs
  (statements? (cs.length + 1) cs).bind assemble

end PoolClient.Toml

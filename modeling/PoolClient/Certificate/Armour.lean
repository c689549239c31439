import PoolClient.Text.Base64
/-!
# Armoured sections

A file of certificates is a text in lines. A line `-----BEGIN L-----` begins a section with the
label `L`, a line that starts with `-----END L-----` ends it, and the lines between hold the
content in base64. `sections?` gives the contents of all sections whose label is known; what
stands outside of sections and inside of others is skipped.
-/

namespace PoolClient.Certificate

open Text

/-- What begins the first line of a section. -/
def beginMark : List Char := "-----BEGIN ".toList

/-- What begins the last line of a section. -/
def endMark : List Char := "-----END ".toList

/-- The labels of the sections whose content is read. -/
def knownLabels : List String :=
  ["CERTIFICATE", "PUBLIC KEY", "RSA PRIVATE KEY", "PRIVATE KEY", "EC PRIVATE KEY", "X509 CRL",
    "CERTIFICATE REQUEST", "ECHCONFIG"]

/-- The lines of a text, each with the character that ends it. -/
def linesOf : List Char → List (List Char)
  | [] => []
  | c :: rest =>
    if c == '\n' || c == '\r' then [c] :: linesOf rest
    else
      match linesOf rest with
      | line :: more => (c :: line) :: more
      | [] => [[c]]

/-- How many dashes stand at the end of a line, and what stands before them, both in reverse.
Blanks among the dashes do not count. -/
def dashesAtEnd : List Char → Nat × List Char
  | [] => (0, [])
  | c :: rest =>
    if c == '-' then
      let (n, before) := dashesAtEnd rest
      (n + 1, if n = 0 then rest else before)
    else if c == '\n' || c == '\r' || c == ' ' then dashesAtEnd rest
    else (0, c :: rest)

/-- The label in the first line of a section, after the mark. -/
def label? (afterMark : List Char) : Option (List Char) :=
  let (n, before) := dashesAtEnd afterMark.reverse
  if n = 5 then some before.reverse else none

/-- The bytes of a base64 text. Blanks do not count, padding may be missing, and unused bits may
be anything. -/
def bytes? (cs : List Char) : Option (List UInt8) :=
  let cs := cs.filter fun c => !(c == ' ' || c == '\t' || c == '\n' || c == '\r')
  let isPad (c : Char) : Bool := c == '='
  let body := cs.takeWhile (!isPad ·)
  let pads := cs.dropWhile (!isPad ·)
  let odd := body.length % 4
  if !pads.all isPad then none
  else if odd = 1 || !(pads.isEmpty || (odd ≠ 0 && odd + pads.length = 4)) then none
  else
    match body.mapM Base64.sextet? with
    | none => none
    | some sextets => some (join sextets)
where
  /-- The whole bytes in a row of six-bit groups. -/
  join : List Nat → List UInt8
    | a :: b :: c :: d :: rest =>
      UInt8.ofNat (a * 4 + b / 16) :: UInt8.ofNat (b % 16 * 16 + c / 4) ::
        UInt8.ofNat (c % 4 * 64 + d) :: join rest
    | [a, b, c] => [UInt8.ofNat (a * 4 + b / 16), UInt8.ofNat (b % 16 * 16 + c / 4)]
    | [a, b] => [UInt8.ofNat (a * 4 + b / 16)]
    | _ => []

/-- A section that has not ended: its label, and its content in reverse. Between sections there
is no label. -/
structure Reader where
  label : Option (List Char)
  content : List Char

/-- The sections in some lines: the label and the bytes of each. -/
def sectionsFrom (r : Reader) : List (List Char) → Option (List (List Char × List UInt8))
  | [] => if r.label.isSome then none else some []
  | line :: rest =>
    if beginMark.isPrefixOf line then
      match label? (line.drop beginMark.length) with
      | none => none
      | some label => sectionsFrom { r with label := some label } rest
    else
      match r.label with
      | none => sectionsFrom r rest
      | some label =>
        if (endMark ++ label ++ "-----".toList).isPrefixOf line then
          if knownLabels.contains (String.ofList label) then
            match bytes? r.content.reverse, sectionsFrom ⟨none, []⟩ rest with
            | some bytes, some more => some ((label, bytes) :: more)
            | _, _ => none
          else sectionsFrom ⟨none, []⟩ rest
        else sectionsFrom { r with content := line.reverse ++ r.content } rest

/-- The contents of all sections with a label. -/
def sections? (label text : String) : Option (List (List UInt8)) :=
  (sectionsFrom ⟨none, []⟩ (linesOf text.toList)).map fun found =>
    (found.filter (·.1 == label.toList)).map (·.2)

end PoolClient.Certificate

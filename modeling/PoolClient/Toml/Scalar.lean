import PoolClient.Number.Based
import PoolClient.Number.Reading
import PoolClient.Text.Pieces
import PoolClient.Time.Instant
import PoolClient.Toml.Item
/-!
# TOML words

Numbers, booleans, dates and times are written as words. `word?` reads one word, or a date and a
time with a space between them. Digits may be parted by single underscores.
-/

namespace PoolClient.Toml

open Number Text Time

/-- Digits without the underscores that part them. -/
def plainDigits? (isDigit : Char → Bool) (cs : List Char) : Option (List Char) :=
  let groups := pieces '_' cs
  if groups.all fun g => !g.isEmpty && g.all isDigit then some groups.flatten else none

/-- The digits of a decimal integer, which has no zero in front. -/
def wholeDigits? (cs : List Char) : Option (List Char) :=
  match plainDigits? Char.isDigit cs with
  | some ('0' :: _ :: _) => none
  | ds => ds

/-- An integer that fits into 64 bits. -/
def fitting (n : Int) : Option Item :=
  if fitsInt64 n then some (.integer n) else none

/-- The integer with some digits in a base. -/
def basedInteger? (base : Nat) (ds : List Char) : Option Item :=
  match (plainDigits? (fun c => (hexValue? c).isSome) ds).bind (numberIn base) with
  | some n => fitting n
  | none => none

/-- An integer. -/
def integer? : List Char → Option Item
  | '0' :: 'x' :: ds => basedInteger? 16 ds
  | '0' :: 'o' :: ds => basedInteger? 8 ds
  | '0' :: 'b' :: ds => basedInteger? 2 ds
  | cs =>
    let (negative, ds) := splitSign cs
    match wholeDigits? ds with
    | some ds => fitting (if negative then -(natOfDigits ds : Int) else natOfDigits ds)
    | none => none

/-- What stands before a character of some class, and what stands after it, if there is one. -/
def splitBefore (isMark : Char → Bool) (cs : List Char) : List Char × Option (List Char) :=
  (cs.takeWhile (!isMark ·), (cs.dropWhile (!isMark ·)).tail?)

/-- Whether a text is a number with a fraction or an exponent. -/
def isFloat (cs : List Char) : Bool :=
  let (mantissa, exponent) := splitBefore (fun c => c == 'e' || c == 'E') (splitSign cs).2
  let (whole, fraction) := splitBefore (· == '.') mantissa
  (fraction.isSome || exponent.isSome) && (wholeDigits? whole).isSome &&
    fraction.all (fun f => (plainDigits? Char.isDigit f).isSome) &&
    exponent.all (fun e => (plainDigits? Char.isDigit (splitSign e).2).isSome)

/-- A float. One that is too large is refused unless it is negative. -/
def float? (cs : List Char) : Option Item :=
  let word := String.ofList (splitSign cs).2
  if word == "inf" || word == "nan" then (double? cs).map .float
  else if isFloat cs then
    match double? (cs.filter (· != '_')) with
    | some x => if x == Float.ofBits 0x7ff0000000000000 then none else some (.float x)
    | none => none
  else none

/-! ## Dates and times -/

/-- What follows a date. -/
def afterDate? (cs : List Char) : Option (List Char) := do
  let (year, cs) ← fixedDigits 4 cs
  let cs ← after '-' cs
  let (month, cs) ← fixedDigits 2 cs
  let cs ← after '-' cs
  let (day, cs) ← fixedDigits 2 cs
  if (⟨year, month, day⟩ : Date).exists? then some cs else none

/-- What follows the fraction of a second, if there is one. -/
def afterFraction? : List Char → Option (List Char)
  | '.' :: c :: rest => if c.isDigit then some (rest.dropWhile Char.isDigit) else none
  | '.' :: [] => none
  | cs => some cs

/-- What follows a time of day. -/
def afterTime? (cs : List Char) : Option (List Char) := do
  let (hour, cs) ← fixedDigits 2 cs
  let cs ← after ':' cs
  let (minute, cs) ← fixedDigits 2 cs
  let cs ← after ':' cs
  let (second, cs) ← fixedDigits 2 cs
  if hour < 24 && minute < 60 && second ≤ 60 then afterFraction? cs else none

/-- Whether a text is nothing, or an offset from universal time. -/
def isOffset : List Char → Bool
  | [] => true
  | ['Z'] => true
  | ['z'] => true
  | sign :: cs =>
    (sign == '+' || sign == '-') &&
      match fixedDigits 2 cs with
      | some (hour, ':' :: rest) =>
        match fixedDigits 2 rest with
        | some (minute, []) => hour < 24 && minute < 60
        | _ => false
      | _ => false

/-- Whether a text is a date, a time, or both. -/
def isMoment (cs : List Char) : Bool :=
  match afterDate? cs with
  | some [] => true
  | some (mark :: rest) =>
    (mark == 'T' || mark == 't' || mark == ' ') && ((afterTime? rest).map isOffset).getD false
  | none => afterTime? cs == some []

/-! ## Words -/

/-- Whether `c` may stand in a word. -/
def isWordChar (c : Char) : Bool :=
  c.isAlphanum || c == '_' || c == '+' || c == '-' || c == '.' || c == ':'

/-- The item that a word stands for. -/
def wordItem? (cs : List Char) : Option Item :=
  match String.ofList cs with
  | "true" => some (.flag true)
  | "false" => some (.flag false)
  | word =>
    if isMoment cs then some (.moment word)
    else (integer? cs).orElse fun _ => float? cs

/-- A word at the start of a text. After a date and a space, a digit begins its time. -/
def splitWord (cs : List Char) : List Char × List Char :=
  let word := cs.takeWhile isWordChar
  match afterDate? word, cs.dropWhile isWordChar with
  | some [], ' ' :: c :: rest =>
    if c.isDigit then
      (word ++ ' ' :: c :: rest.takeWhile isWordChar, rest.dropWhile isWordChar)
    else (word, ' ' :: c :: rest)
  | _, rest => (word, rest)

/-- The item at the start of a text, and what follows it. -/
def word? (cs : List Char) : Option (Item × List Char) :=
  let (word, rest) := splitWord cs
  (wordItem? word).map fun item => (item, rest)

end PoolClient.Toml

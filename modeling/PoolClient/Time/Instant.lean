import PoolClient.Number.Numeral
import PoolClient.Text.Blank
import PoolClient.Time.Calendar
/-!
# Instants

An `Instant` is a second of universal time with nanoseconds; a leap second is second 59 with a
thousand million nanoseconds or more. `Instant.text` writes the compact form of the messages,
`YYYYMMDDTHH:MM:SSZ`. `Instant.read?` accepts that form, the dashed form with an offset
(`readWithOffset?`), and a laxer dashed form without one that means universal time
(`readPlain?`).
-/

namespace PoolClient.Time

open Number Text

/-- A point in time: seconds since 1970-01-01T00:00:00Z, and nanoseconds. -/
structure Instant where
  seconds : Int
  nanos : Nat
  deriving DecidableEq, Repr, Inhabited

/-- `0001-01-01T00:00:00Z`, which stands for "never". -/
def Instant.zero : Instant :=
  ⟨-62135596800, 0⟩

/-- Earlier instants come first. -/
def Instant.compare (a b : Instant) : Ordering :=
  (Ord.compare a.seconds b.seconds).then (Ord.compare a.nanos b.nanos)

/-! ## Writing -/

/-- A year in at least four digits, with a sign unless four digits hold it. -/
def yearText (year : Int) : List Char :=
  if 0 ≤ year ∧ year ≤ 9999 then padded 4 year.natAbs
  else (if year < 0 then '-' else '+') :: padded 4 year.natAbs

/-- The compact form of an instant, to the second. -/
def Instant.text (t : Instant) : String :=
  let date := Date.ofDayNumber (t.seconds / 86400)
  let second := (t.seconds % 86400).toNat
  String.ofList (yearText date.year ++ padded 2 date.month ++ padded 2 date.day ++ ['T'] ++
    padded 2 (second / 3600) ++ [':'] ++ padded 2 (second / 60 % 60) ++ [':'] ++
    padded 2 (second % 60 + t.nanos / 1000000000) ++ ['Z'])

/-! ## Reading -/

/-- What a text says about an instant: a local date and time, and the offset in seconds. -/
structure Fields where
  date : Date
  hour : Nat
  minute : Nat
  second : Nat
  nanos : Nat
  offset : Int
  deriving DecidableEq, Repr

/-- The instant that the fields denote, if date and time exist. Years have at most six digits.
Second 60 is a leap second. -/
def Fields.instant? (f : Fields) : Option Instant :=
  if f.date.exists? ∧ -262143 ≤ f.date.year ∧ f.date.year ≤ 262142 ∧ f.hour ≤ 23 ∧
      f.minute ≤ 59 ∧ f.second ≤ 60 then
    let second := min f.second 59
    let leap := if f.second = 60 then 1000000000 else 0
    some ⟨f.date.dayNumber * 86400 + (f.hour * 3600 + f.minute * 60 + second : Nat) - f.offset,
      f.nanos + leap⟩
  else none

/-- A number of exactly `n` digits, and what follows. -/
def fixedDigits (n : Nat) (cs : List Char) : Option (Nat × List Char) :=
  let ds := cs.take n
  if ds.length = n ∧ ds.all Char.isDigit then some (natOfDigits ds, cs.drop n) else none

/-- What follows the character `c`. -/
def after (c : Char) : List Char → Option (List Char)
  | d :: rest => if d = c then some rest else none
  | [] => none

/-- Nanoseconds after a point, if there is one. Digits past the ninth are dropped. -/
def fractionOf (cs : List Char) : Option (Nat × List Char) :=
  match cs with
  | '.' :: rest =>
    let ds := rest.takeWhile Char.isDigit
    if ds.isEmpty then none
    else some (natOfDigits (ds.take 9) * Nat.pow 10 (9 - ds.length), rest.dropWhile Char.isDigit)
  | cs => some (0, cs)

/-- An offset from universal time in seconds: `Z`, or a sign, hours and minutes up to 23:59.
The sign may be the typographic minus. -/
def offset? (cs : List Char) : Option (Int × List Char) :=
  match cs with
  | 'Z' :: rest | 'z' :: rest => some (0, rest)
  | sign :: rest =>
    if sign = '+' ∨ sign = '-' ∨ sign = '\u2212' then do
      let (hours, rest) ← fixedDigits 2 rest
      let rest ← after ':' rest
      let (minutes, rest) ← fixedDigits 2 rest
      if hours ≤ 23 ∧ minutes ≤ 59 then
        let seconds : Int := hours * 3600 + minutes * 60
        return (if sign = '+' then seconds else -seconds, rest)
      else none
    else none
  | [] => none

/-- A dashed date and a time with an offset. Date and time may be parted by a space. -/
def readWithOffset? (cs : List Char) : Option Instant := do
  let (year, cs) ← fixedDigits 4 cs
  let cs ← after '-' cs
  let (month, cs) ← fixedDigits 2 cs
  let cs ← after '-' cs
  let (day, cs) ← fixedDigits 2 cs
  let cs ← (after 'T' cs).or ((after 't' cs).or (after ' ' cs))
  let (hour, cs) ← fixedDigits 2 cs
  let cs ← after ':' cs
  let (minute, cs) ← fixedDigits 2 cs
  let cs ← after ':' cs
  let (second, cs) ← fixedDigits 2 cs
  let (nanos, cs) ← fractionOf cs
  let (offset, cs) ← offset? cs
  if cs.isEmpty then Fields.instant? ⟨⟨year, month, day⟩, hour, minute, second, nanos, offset⟩
  else none

/-- A number of one to `n` digits, perhaps after blanks, and what follows. -/
def someDigits (n : Nat) (cs : List Char) : Option (Nat × List Char) :=
  let cs := cs.dropWhile isBlank
  let ds := (cs.take n).takeWhile Char.isDigit
  if ds.isEmpty then none else some (natOfDigits ds, cs.drop ds.length)

/-- A year of up to four digits, or of any number of digits after a sign. -/
def year? (cs : List Char) : Option (Int × List Char) :=
  match cs.dropWhile isBlank with
  | '-' :: rest => signed rest fun n => -(n : Int)
  | '+' :: rest => signed rest fun n => n
  | cs => (someDigits 4 cs).map fun (n, rest) => ((n : Int), rest)
where
  /-- The digits after a sign, all of them. -/
  signed (cs : List Char) (f : Nat → Int) : Option (Int × List Char) :=
    let ds := cs.takeWhile Char.isDigit
    if ds.isEmpty then none else some (f (natOfDigits ds), cs.dropWhile Char.isDigit)

/-- A dashed date and a time in universal time. Numbers may be short. -/
def readPlain? (cs : List Char) : Option Instant := do
  let (year, cs) ← year? cs
  let cs ← after '-' cs
  let (month, cs) ← someDigits 2 cs
  let cs ← after '-' cs
  let (day, cs) ← someDigits 2 cs
  let cs ← after 'T' cs
  let (hour, cs) ← someDigits 2 cs
  let cs ← after ':' cs
  let (minute, cs) ← someDigits 2 cs
  let cs ← after ':' cs
  let (second, cs) ← someDigits 2 cs
  let (nanos, cs) ← fractionOf cs
  if cs.isEmpty then Fields.instant? ⟨⟨year, month, day⟩, hour, minute, second, nanos, 0⟩
  else none

/-- A compact date at the front, with dashes put in. -/
def withDashes (cs : List Char) : List Char :=
  if (cs.take 8).all Char.isDigit ∧ cs[8]? = some 'T' then
    cs.take 4 ++ ['-'] ++ (cs.drop 4).take 2 ++ ['-'] ++ cs.drop 6
  else cs

/-- The instant that a text denotes. Blanks around it do not count. -/
def Instant.read? (text : String) : Option Instant :=
  let cs := withDashes (trim text.toList)
  (readWithOffset? cs).or (readPlain? (dropEndWhile (· == 'Z') cs))

end PoolClient.Time

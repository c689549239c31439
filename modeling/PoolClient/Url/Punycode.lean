import PoolClient.Number.Based
/-!
# Punycode

A label of any characters can be written in ASCII. Its ASCII characters come first, and then, for
the others in the order of their code points, how far each lies behind the one before, counted
over all code points and all places where it could stand. These distances are numbers of base 36
whose digits count up to thresholds, and the thresholds follow the size of the last distance.
-/

namespace PoolClient.Url.Punycode

/-- The digit of value `d`. -/
def digit (d : Nat) : Char :=
  if d < 26 then Char.ofNat (97 + d) else Char.ofNat (22 + d)

/-- The value of a digit. -/
def digitValue? (c : Char) : Option Nat :=
  let n := c.toNat
  if 97 ≤ n && n ≤ 122 then some (n - 97)
  else if 48 ≤ n && n ≤ 57 then some (n - 22)
  else none

/-- The least digit that is not the last of a number, at a place `k` under a bias. -/
def threshold (k bias : Nat) : Nat :=
  if k ≤ bias then 1 else if bias + 26 ≤ k then 26 else k - bias

theorem threshold_pos (k bias : Nat) : 0 < threshold k bias := by
  unfold threshold
  split
  · omega
  · split <;> omega

theorem threshold_le (k bias : Nat) : threshold k bias ≤ 26 := by
  unfold threshold
  split
  · omega
  · split <;> omega

/-- How often a distance is divided to get below the size of a single digit, and what is left. -/
def reduced (delta k : Nat) : Nat × Nat :=
  if 455 < delta then reduced (delta / 35) (k + 36) else (delta, k)
termination_by delta
decreasing_by omega

/-- The bias after a distance, when so many characters are there. -/
def bias (delta count : Nat) (first : Bool) : Nat :=
  let delta := if first then delta / 700 else delta / 2
  let (delta, k) := reduced (delta + delta / count) 0
  k + 36 * delta / (delta + 38)

/-- Whether a character is in ASCII. -/
def isBasic (c : Char) : Bool :=
  c.toNat < 0x80

/-! ## Writing -/

/-- The digits of a distance. -/
def distanceDigits (bias k q : Nat) : List Char :=
  let t := threshold k bias
  if q < t then [digit q]
  else digit (t + (q - t) % (36 - t)) :: distanceDigits bias (k + 36) ((q - t) / (36 - t))
termination_by q
decreasing_by
  have := threshold_pos k bias
  exact Nat.lt_of_le_of_lt (Nat.div_le_self _ _) (by omega)

/-- What has been written: the digits, the distance so far, the bias, and how many characters. -/
structure Written where
  digits : List Char
  delta : Nat
  bias : Nat
  count : Nat

/-- Pass one character while those of code point `n` are written, of which the first comes after
`basics` characters in ASCII. -/
def Written.pass (basics n : Nat) (w : Written) (c : Char) : Written :=
  if c.toNat < n then { w with delta := w.delta + 1 }
  else if c.toNat = n then
    ⟨w.digits ++ distanceDigits w.bias 36 w.delta, 0,
      Punycode.bias w.delta (w.count + 1) (w.count == basics), w.count + 1⟩
  else w

/-- Write the characters of all code points from `n` on, which are given in their order. -/
def writtenFrom (label : List Char) (basics : Nat) : List Nat → Nat → Written → Written
  | [], _, w => w
  | m :: rest, n, w =>
    let w := { w with delta := w.delta + (m - n) * (w.count + 1) }
    let w := label.foldl (Written.pass basics m) w
    writtenFrom label basics rest (m + 1) { w with delta := w.delta + 1 }

/-- Put a number into an increasing list, unless it is there. -/
def inserted (n : Nat) : List Nat → List Nat
  | [] => [n]
  | m :: rest =>
    if n < m then n :: m :: rest else if n = m then m :: rest else m :: inserted n rest

/-- The text of a label. -/
def encode (label : List Char) : List Char :=
  let basic := label.filter isBasic
  let points := (label.filter (!isBasic ·)).foldl (fun ns c => inserted c.toNat ns) []
  let w := writtenFrom label basic.length points 0x80 ⟨[], 0, 72, basic.length⟩
  (if basic.isEmpty then [] else basic ++ ['-']) ++ w.digits

/-! ## Reading -/

/-- What has been read: the label so far, the last code point, the distance so far and where it
began, the bias, and place and weight of the next digit. -/
structure Read where
  label : List Char
  point : Nat
  index : Nat
  start : Nat
  bias : Nat
  place : Nat
  weight : Nat

/-- Put a character into the label once its distance is known. -/
def Read.place? (r : Read) (index : Nat) : Option Read :=
  let count := r.label.length + 1
  let point := r.point + index / count
  if point.isValidChar then
    let place := index % count
    some ⟨r.label.insertIdx place (Char.ofNat point), point, place + 1, place + 1,
      Punycode.bias (index - r.start) count (r.start == 0), 36, 1⟩
  else none

/-- Read one digit. -/
def Read.digit? (r : Read) (c : Char) : Option Read :=
  match digitValue? c with
  | none => none
  | some d =>
    let t := threshold r.place r.bias
    let index := r.index + d * r.weight
    if d < t then r.place? index
    else some { r with index, place := r.place + 36, weight := r.weight * (36 - t) }

/-- The characters in ASCII, which the last hyphen ends, and the digits. -/
def split (cs : List Char) : List Char × List Char :=
  match cs.reverse.dropWhile (· != '-') with
  | _ :: c :: basic => ((c :: basic).reverse, (cs.reverse.takeWhile (· != '-')).reverse)
  | _ => ([], cs)

/-- The label with a text. -/
def decode? (cs : List Char) : Option (List Char) :=
  let (basic, digits) := split cs
  if basic.all isBasic then
    match digits.foldlM Read.digit? ⟨basic, 0x80, 0, 0, 72, 36, 1⟩ with
    | some r => if r.place = 36 then some r.label else none
    | none => none
  else none

end PoolClient.Url.Punycode

import PoolClient.Number.Numeral
/-!
# Durations

A `Duration` is a span of time, exact to the nanosecond. The seconds of a span are held in 64 bits,
so two spans may have a sum that is out of reach (`Duration.add?`), and a longer span than the
longest that is held is no input of the library. `Duration.text` writes a span for messages, in the
largest of four units that it fills, without trailing zeros.
-/

namespace PoolClient.Time

/-- A number of milliseconds with a fraction, which is a number of nanoseconds. Other numbers stand
for whole milliseconds. -/
structure Millis where
  whole : Nat
  rest : Fin 1000000
  deriving DecidableEq, Repr, Inhabited

instance : NatCast Millis :=
  ⟨fun n => ⟨n, 0⟩⟩

instance {n : Nat} : OfNat Millis n :=
  ⟨⟨n, 0⟩⟩

/-- A span of time. -/
structure Duration where
  exact : Millis
  deriving DecidableEq, Repr, Inhabited

namespace Duration

/-- The number of whole milliseconds. -/
def millis (d : Duration) : Nat :=
  d.exact.whole

/-- The number of nanoseconds. -/
def nanos (d : Duration) : Nat :=
  1000000 * d.exact.whole + d.exact.rest

/-- The given number of nanoseconds. -/
def ofNanos (n : Nat) : Duration :=
  ⟨n / 1000000, Fin.ofNat _ n⟩

/-- The given number of seconds. -/
def ofSeconds (n : Nat) : Duration :=
  ⟨(1000 * n : Nat)⟩

/-- The first number of nanoseconds that is out of reach: 64 bits of seconds. -/
def bound : Nat :=
  UInt64.size * 1000000000

/-- The sum of two spans, if it can be held. -/
def add? (a b : Duration) : Option Duration :=
  -- The second span, often a constant, stands first: unfolding counts down the last summand.
  if b.nanos + a.nanos < bound then some (.ofNanos (b.nanos + a.nanos)) else none

/-- The number of seconds, as a double. -/
def seconds (d : Duration) : Float :=
  Float.ofNat (d.nanos / 1000000000) + Float.ofNat (d.nanos % 1000000000) / 1000000000

/-- A number of parts of ten to the `width`, as digits after a point. -/
def fractionText (width parts : Nat) : List Char :=
  match (Number.padded width parts).reverse.dropWhile (· == '0') with
  | [] => []
  | ds => '.' :: ds.reverse

/-- A number of nanoseconds in a unit of ten to the `width` of them. -/
def textIn (width : Nat) (unit : String) (nanos : Nat) : String :=
  let one := Nat.pow 10 width
  String.ofList (Number.digits (nanos / one) ++ fractionText width (nanos % one)) ++ unit

/-- The duration in messages. -/
def text (d : Duration) : String :=
  if 1000000000 ≤ d.nanos then textIn 9 "s" d.nanos
  else if 1000000 ≤ d.nanos then textIn 6 "ms" d.nanos
  else if 1000 ≤ d.nanos then textIn 3 "µs" d.nanos
  else textIn 0 "ns" d.nanos

@[simp] theorem nanos_ofSeconds (n : Nat) : (ofSeconds n).nanos = n * 1000000000 := by
  have hnanos : (ofSeconds n).nanos = 1000000 * (1000 * n) + 0 := rfl
  omega

@[simp] theorem nanos_ofNanos (n : Nat) : (ofNanos n).nanos = n := by
  have hnanos : (ofNanos n).nanos = 1000000 * (n / 1000000) + n % 1000000 := rfl
  omega

/-- A sum is exact if it can be held. -/
theorem add?_eq_some {a b c : Duration} (h : a.add? b = some c) : c.nanos = a.nanos + b.nanos := by
  unfold add? at h
  split at h
  · cases h
    rw [nanos_ofNanos, Nat.add_comm]
  · cases h

/-- A sum overflows if its seconds do not fit 64 bits. -/
theorem add?_eq_none_iff {a b : Duration} : a.add? b = none ↔ bound ≤ a.nanos + b.nanos := by
  simp [add?, Nat.add_comm]

end Duration

end PoolClient.Time

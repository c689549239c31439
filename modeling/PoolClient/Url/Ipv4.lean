import PoolClient.Number.Based
import PoolClient.Number.Numeral
import PoolClient.Text.Pieces
/-!
# IPv4 addresses

A host whose last label is a number is an IPv4 address. It has one to four numbers, each
decimal, octal (after `0`) or hexadecimal (after `0x`); all but the last are single bytes, and
the last fills the bytes that are left. `ipv4Text` writes an address with four decimal numbers.
-/

namespace PoolClient.Url

open Number Text

/-- A number in an address. A marker of the base without digits stands for zero. -/
def ipv4Number? : List Char → Option Nat
  | [] => none
  | '0' :: 'x' :: ds => numberIn 16 ds
  | '0' :: 'X' :: ds => numberIn 16 ds
  | '0' :: d :: ds => numberIn 8 (d :: ds)
  | ds => numberIn 10 ds

/-- The labels of a host, without the empty one after a dot at the end. -/
def labels (host : List Char) : List (List Char) :=
  match (pieces '.' host).reverse with
  | [] :: l :: rest => (l :: rest).reverse
  | ls => ls.reverse

/-- Whether the last label of a host is a number. -/
def endsInNumber (host : List Char) : Bool :=
  match (labels host).getLast? with
  | some l => isNumeral l || (ipv4Number? l).isSome
  | none => false

/-- The address that some numbers make: all but the last are bytes. -/
def ipv4OfNumbers? (ns : List Nat) : Option Nat :=
  match ns.reverse with
  | [] => none
  | last :: bytes =>
    if ns.length ≤ 4 && bytes.all (· < 256) && last < Nat.pow 256 (4 - bytes.length) then
      some (bytes.reverse.foldl (fun n b => 256 * n + b) 0 * Nat.pow 256 (4 - bytes.length) + last)
    else none

/-- The address in a host that ends in a number. -/
def ipv4? (host : List Char) : Option Nat :=
  ((labels host).mapM ipv4Number?).bind ipv4OfNumbers?

/-- An address as four decimal numbers. -/
def ipv4Text (n : Nat) : List Char :=
  digits (n / 16777216) ++ '.' :: digits (n / 65536 % 256) ++ '.' ::
    digits (n / 256 % 256) ++ '.' :: digits (n % 256)

end PoolClient.Url

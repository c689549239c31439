import PoolClient.Text.Quoted
import PoolClient.Url.Ipv4
/-!
# IPv6 addresses

An address has eight pieces of up to four hexadecimal digits. A double colon stands for one or
more zero pieces, and the last two pieces may be written as an IPv4 address. `ipv6Text` writes
an address with its first longest run of two or more zeros as a double colon.
-/

namespace PoolClient.Url

open Number Text

/-- A piece of one to four hexadecimal digits. -/
def ipv6Piece? (ds : List Char) : Option Nat :=
  if ds.isEmpty || 4 < ds.length then none else numberIn 16 ds

/-- A decimal byte without leading zeros. -/
def plainByte? (ds : List Char) : Option Nat :=
  if isNumeral ds && digits (natOfDigits ds) == ds && natOfDigits ds < 256 then
    some (natOfDigits ds)
  else none

/-- The two pieces that four decimal bytes make. -/
def ipv4Pieces? (cs : List Char) : Option (List Nat) :=
  match (pieces '.' cs).mapM plainByte? with
  | some [a, b, c, d] => some [256 * a + b, 256 * c + d]
  | _ => none

/-- The pieces between single colons. The last may be an IPv4 address if `mixed`. -/
def ipv6Pieces? (mixed : Bool) (cs : List Char) : Option (List Nat) :=
  match (pieces ':' cs).reverse with
  | last :: rest =>
    if mixed && last.contains '.' then
      match ipv4Pieces? last, rest.reverse.mapM ipv6Piece? with
      | some pair, some pieces => some (pieces ++ pair)
      | _, _ => none
    else (rest.reverse ++ [last]).mapM ipv6Piece?
  | [] => none

/-- What stands before and after the first double colon. -/
def splitDoubleColon : List Char → Option (List Char × List Char)
  | ':' :: ':' :: rest => some ([], rest)
  | c :: rest => (splitDoubleColon rest).map fun (before, after) => (c :: before, after)
  | [] => none

/-- One side of a double colon, where nothing may stand. -/
def ipv6Side? (mixed : Bool) (cs : List Char) : Option (List Nat) :=
  if cs.isEmpty then some [] else ipv6Pieces? mixed cs

/-- The eight pieces of an address. -/
def ipv6? (cs : List Char) : Option (List Nat) :=
  match splitDoubleColon cs with
  | none =>
    match ipv6Pieces? true cs with
    | some pieces => if pieces.length = 8 then some pieces else none
    | none => none
  | some (before, after) =>
    match ipv6Side? false before, ipv6Side? true after with
    | some front, some back =>
      let given := front.length + back.length
      if given < 8 then some (front ++ List.replicate (8 - given) 0 ++ back) else none
    | _, _ => none

/-! ## Writing -/

/-- The length of the run of zeros that begins at each place. -/
def zeroRuns : List Nat → List Nat
  | [] => []
  | p :: rest =>
    let runs := zeroRuns rest
    (if p = 0 then runs.headD 0 + 1 else 0) :: runs

/-- Place and length of the first longest run of zeros. -/
def longestZeros (pieces : List Nat) : Nat × Nat :=
  let runs := zeroRuns pieces
  let longest := runs.foldl max 0
  (runs.idxOf longest, longest)

/-- Pieces with colons between them. -/
def joinedPieces (pieces : List Nat) : List Char :=
  [':'].intercalate (pieces.map hexadecimal)

/-- The text of an address. -/
def ipv6Text (pieces : List Nat) : List Char :=
  let (place, length) := longestZeros pieces
  if length < 2 then joinedPieces pieces
  else joinedPieces (pieces.take place) ++ [':', ':'] ++ joinedPieces (pieces.drop (place + length))

end PoolClient.Url

/-!
# The shape of certificates

A certificate is a tree of tagged values: a tag, a length, and so many bytes. `isCertificate`
checks that the parts which make a trusted root are there. Certificates of the third version are
checked as a whole, with their extensions; those of the first only up to the key.
-/

namespace PoolClient.Certificate

/-- Bytes that are still to be read. -/
abbrev Bytes := List UInt8

/-! ## Tagged values -/

/-- The tags that occur in a certificate. -/
inductive Tag where
  | boolean
  | integer
  | bitString
  | octetString
  | identifier
  | sequence
  | version
  | extensions
  deriving DecidableEq, Repr

/-- The byte of a tag. -/
def Tag.byte : Tag → UInt8
  | .boolean => 0x01
  | .integer => 0x02
  | .bitString => 0x03
  | .octetString => 0x04
  | .identifier => 0x06
  | .sequence => 0x30
  | .version => 0xa0
  | .extensions => 0xa3

/-- The number that some bytes make. -/
def numberOf (bs : Bytes) : Nat :=
  bs.foldl (fun n b => 256 * n + b.toNat) 0

/-- A length and what follows it. It is written in the shortest way, and below 65535. -/
def length? : Bytes → Option (Nat × Bytes)
  | [] => none
  | b :: rest =>
    let (n, least, rest) :=
      if b < 0x80 then (b.toNat, 0, some rest)
      else if b == 0x81 then (numberOf (rest.take 1), 0x80, tailAfter 1 rest)
      else if b == 0x82 then (numberOf (rest.take 2), 0x100, tailAfter 2 rest)
      else (0, 1, none)
    match rest with
    | some rest => if least ≤ n && n < 0xffff then some (n, rest) else none
    | none => none
where
  /-- What follows so many bytes, if there are that many. -/
  tailAfter (n : Nat) (bs : Bytes) : Option Bytes :=
    if n ≤ bs.length then some (bs.drop n) else none

/-- The content of a value with a tag, and what follows it. -/
def value? (tag : Tag) : Bytes → Option (Bytes × Bytes)
  | [] => none
  | b :: rest =>
    if b == tag.byte then
      match length? rest with
      | some (n, rest) => if n ≤ rest.length then some (rest.take n, rest.drop n) else none
      | none => none
    else none

/-- What follows a value with a tag. -/
def skip? (tag : Tag) (bs : Bytes) : Option Bytes :=
  (value? tag bs).map (·.2)

/-- What follows a value with one tag after the other. -/
def skipAll? (tags : List Tag) (bs : Bytes) : Option Bytes :=
  tags.foldlM (fun bs tag => skip? tag bs) bs

/-! ## Extensions -/

/-- The extensions that may be critical, by the last byte of their identifiers: key usage,
alternative names, basic constraints, name constraints, distribution points, and extended key
usage. -/
def knownExtensions : List UInt8 :=
  [15, 17, 19, 30, 31, 37]

/-- The number of a standard extension, from its identifier. -/
def standardExtension? : Bytes → Option UInt8
  | [0x55, 0x1d, n] => if knownExtensions.contains n then some n else none
  | _ => none

/-- Whether an extension is critical, which it says before its content, and what follows. -/
def critical? (bs : Bytes) : Option (Bool × Bytes) :=
  if bs.head? == some Tag.boolean.byte then
    match value? .boolean bs with
    | some ([0xff], rest) => some (true, rest)
    | some ([0x00], rest) => some (false, rest)
    | _ => none
  else some (false, bs)

/-- Read one extension, given the known ones that came before. Known ones must not come twice
and, but for the key usage, hold a sequence; others must not be critical. -/
def extension? (seen : List UInt8) (bs : Bytes) : Option (List UInt8) := do
  let (identifier, bs) ← value? .identifier bs
  let (isCritical, bs) ← critical? bs
  let (content, bs) ← value? .octetString bs
  if !bs.isEmpty then none
  else
    match standardExtension? identifier with
    | none => if isCritical then none else some seen
    | some n =>
      if seen.contains n then none
      else if n == 15 || skip? .sequence content == some [] then some (n :: seen)
      else none

/-- Whether bytes are extensions, at most `limit` of them. -/
def areExtensions : Nat → List UInt8 → Bytes → Bool
  | 0, _, bs => bs.isEmpty
  | limit + 1, seen, bs =>
    bs.isEmpty ||
      match value? .sequence bs with
      | some (content, rest) =>
        match extension? seen content with
        | some seen => areExtensions limit seen rest
        | none => false
      | none => false

/-- Whether nothing follows the key, or the extensions do. -/
def isEnding (bs : Bytes) : Bool :=
  bs.isEmpty ||
    match value? .extensions bs with
    | some (tagged, []) =>
      match value? .sequence tagged with
      | some (content, []) => areExtensions content.length [] content
      | _ => false
    | _ => false

/-! ## Certificates -/

/-- Whether bytes are a bit string that uses all bits of its last byte, and nothing more. -/
def isSignature (bs : Bytes) : Bool :=
  match value? .bitString bs with
  | some (0 :: _, []) => true
  | _ => false

/-- The third version, as it is written. -/
def thirdVersion : Bytes := [0x02, 0x01, 0x02]

/-- The body and the rest of a certificate. -/
def signed? (bs : Bytes) : Option (Bytes × Bytes) :=
  match value? .sequence bs with
  | some (signed, []) => value? .sequence signed
  | _ => none

/-- Whether bytes are a certificate of the third version. The algorithm is named twice. -/
def isThird (bs : Bytes) : Bool :=
  ((do
    let (body, rest) ← signed? bs
    let (outer, rest) ← value? .sequence rest
    let (version, body) ← value? .version body
    let body ← skip? .integer body
    let (inner, body) ← value? .sequence body
    let body ← skipAll? [.sequence, .sequence, .sequence, .sequence] body
    some (isSignature rest && version == thirdVersion && inner == outer && isEnding body)) :
    Option Bool).getD false

/-- Whether bytes are a certificate of the first version. -/
def isFirst (bs : Bytes) : Bool :=
  ((do
    let (body, rest) ← signed? bs
    let rest ← skip? .sequence rest
    let body ← skipAll? [.integer, .sequence, .sequence, .sequence, .sequence, .sequence] body
    some (isSignature rest && body.isEmpty)) : Option Bool).getD false

/-- Whether bytes are a certificate that can be trusted as a root. -/
def isCertificate (bs : Bytes) : Bool :=
  isThird bs || isFirst bs

end PoolClient.Certificate

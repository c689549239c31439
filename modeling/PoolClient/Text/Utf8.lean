/-!
# UTF-8

`bytes` writes characters as UTF-8. `characters` reads bytes back one character at a time: where
they are malformed it gives `none`, one for each longest run that begins a character but cannot
go on. `lossy` puts U+FFFD in the place of these, and `strict?` refuses them.
-/

namespace PoolClient.Text.Utf8

/-- The bytes of some characters. -/
def bytes (cs : List Char) : List UInt8 :=
  cs.flatMap String.utf8EncodeChar

/-- A character that has begun: the bits read so far, how many bytes are missing, and between
which bounds the next one must lie. -/
structure Begun where
  bits : Nat
  missing : Nat
  least : Nat
  greatest : Nat
  deriving DecidableEq, Repr

/-- What a byte is that stands at the start of a character. -/
inductive Lead where
  | whole (c : Char)
  | begins (b : Begun)
  | never
  deriving DecidableEq, Repr

/-- The bounds exclude overlong forms, surrogates, and everything above U+10FFFF. -/
def lead (byte : Nat) : Lead :=
  if byte < 0x80 then .whole (Char.ofNat byte)
  else if byte < 0xc2 then .never
  else if byte < 0xe0 then .begins ⟨byte - 0xc0, 1, 0x80, 0xbf⟩
  else if byte == 0xe0 then .begins ⟨0, 2, 0xa0, 0xbf⟩
  else if byte == 0xed then .begins ⟨0xd, 2, 0x80, 0x9f⟩
  else if byte < 0xf0 then .begins ⟨byte - 0xe0, 2, 0x80, 0xbf⟩
  else if byte == 0xf0 then .begins ⟨0, 3, 0x90, 0xbf⟩
  else if byte < 0xf4 then .begins ⟨byte - 0xf0, 3, 0x80, 0xbf⟩
  else if byte == 0xf4 then .begins ⟨4, 3, 0x80, 0x8f⟩
  else .never

/-- Go on with a byte that is within the bounds. -/
def Begun.extend (b : Begun) (byte : Nat) : Lead :=
  let bits := 64 * b.bits + (byte - 0x80)
  if b.missing ≤ 1 then .whole (Char.ofNat bits)
  else .begins ⟨bits, b.missing - 1, 0x80, 0xbf⟩

/-- What a lead makes complete, and what it leaves begun. -/
def Lead.split : Lead → List (Option Char) × Option Begun
  | .whole c => ([some c], none)
  | .begins b => ([], some b)
  | .never => ([none], none)

/-- Read one byte: what becomes complete, and what is begun afterwards. -/
def step (state : Option Begun) (byte : Nat) : List (Option Char) × Option Begun :=
  match state with
  | none => (lead byte).split
  | some b =>
    if b.least ≤ byte && byte ≤ b.greatest then (b.extend byte).split
    else
      let (done, next) := (lead byte).split
      (none :: done, next)

/-- The characters in some bytes, after those that began one. -/
def charactersFrom (state : Option Begun) : List UInt8 → List (Option Char)
  | [] => if state.isSome then [none] else []
  | byte :: rest =>
    let (done, next) := step state byte.toNat
    done ++ charactersFrom next rest

/-- The characters in some bytes, with `none` for what is malformed. -/
def characters (bs : List UInt8) : List (Option Char) :=
  charactersFrom none bs

/-- The text in some bytes, with U+FFFD for what is malformed. -/
def lossy (bs : List UInt8) : List Char :=
  (characters bs).map (·.getD '\ufffd')

/-- The text in some bytes that are well-formed. -/
def strict? (bs : List UInt8) : Option (List Char) :=
  (characters bs).mapM id

end PoolClient.Text.Utf8

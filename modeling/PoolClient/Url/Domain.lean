import PoolClient.Text.Pieces
import PoolClient.Unicode.Composition
import PoolClient.Unicode.Direction
import PoolClient.Unicode.Folding
import PoolClient.Unicode.Joining
import PoolClient.Url.Punycode
/-!
# Domain names

`asciiDomain?` gives a domain name in the form in which it is looked up: folded, composed, and
with every label in ASCII. Labels that are in ASCII already because they were encoded must hold
what encoding a label gives.
-/

namespace PoolClient.Url

open Text Unicode

/-- Whether an ASCII character may not stand in a domain name. -/
def isForbiddenInDomain (c : Char) : Bool :=
  c.toNat ≤ 0x20 || c.toNat == 0x7f ||
    ['#', '%', '/', ':', '<', '>', '?', '@', '[', '\\', ']', '^', '|'].contains c

/-- What begins an encoded label. -/
def encodedMark : List Char := "xn--".toList

/-- The longest label, in characters, that is encoded. -/
def encodedLimit : Nat := 1000

/-- Whether a label is folded and composed. -/
def isNormal (label : List Char) : Bool :=
  label.all (fun c => folded? c == some [c]) && composed label == label

/-- Whether a label with characters beyond ASCII may be used: it does not begin with a mark, and
joiners stand where they may. -/
def isUsable (label : List Char) : Bool :=
  !label.head?.any isMark && joinersFit [] label

/-- The characters that a folded label stands for. -/
def labelCharacters? (label : List Char) : Option (List Char) :=
  if encodedMark.isPrefixOf label then
    match Punycode.decode? (label.drop encodedMark.length) with
    | some cs =>
      if label.all Punycode.isBasic && !cs.all Punycode.isBasic && isNormal cs && isUsable cs then
        some cs
      else none
    | none => none
  else if label.all Punycode.isBasic then some label
  else if isUsable label && label.length ≤ encodedLimit then some label
  else none

/-- A folded label in ASCII. -/
def asciiLabel (label : List Char) : List Char :=
  if label.all Punycode.isBasic then label else encodedMark ++ Punycode.encode label

/-- A domain name in ASCII. -/
def asciiDomain? (cs : List Char) : Option (List Char) :=
  match cs.mapM folded? with
  | none => none
  | some folded =>
    let name := composed folded.flatten
    let labels := pieces '.' name
    match labels.mapM labelCharacters? with
    | none => none
    | some characters =>
      if name.any isForbiddenInDomain || !mayStandTogether characters then none
      else some (['.'].intercalate (labels.map asciiLabel))

end PoolClient.Url

import PoolClient.Unicode.Combining
/-!
# Joiners

Two invisible characters say that the letters around them are joined, or are not. In a name they
may stand only where they change how it is written: behind a sign that takes the vowel off a
consonant, and the second one also between letters that would otherwise join.
-/

namespace PoolClient.Unicode

/-- The ranges of letters that join on both sides. -/
def dualJoiningRows : List Row :=
  rows [
    "620,626,628,62a 62e,633 63f,641 647,649 64a,66e 66f,678 687,69a 6bf,6c1 6c2,6cc,6ce,6d0 6d1",
    "6fa 6fc,6ff,712 714,71a 71d,71f 727,729,72b,72d 72e,74e 758,75c 76a,76d 770,772,775 777",
    "77a 77f,7ca 7ea,1807,1820 1878,1887 18a8,18aa"]

/-- The ranges of letters that join only with the letter before them. -/
def rightJoiningRows : List Row :=
  rows [
    "622 625,627,629,62f 632,648,671 673,675 677,688 699,6c0,6c3 6cb,6cd,6cf,6d2 6d3,6d5,6ee 6ef",
    "710,715 719,71e,728,72a,72c,72f,74d,759 75b,76b 76c,771,773 774,778 779"]

/-- The character that joins. -/
def joiner : Char := '\u200d'

/-- The character that keeps apart. -/
def nonJoiner : Char := '\u200c'

/-- Whether the characters before a place, the last of them first, join with what follows. -/
def joinsOnward (before : List Char) : Bool :=
  match before.dropWhile isMark with
  | c :: _ => inRows dualJoiningRows c.toNat
  | [] => false

/-- Whether the characters after a place join with what comes before. -/
def joinsBackward (after : List Char) : Bool :=
  match after.dropWhile isMark with
  | c :: _ => inRows dualJoiningRows c.toNat || inRows rightJoiningRows c.toNat
  | [] => false

/-- Whether the last character before a place takes the vowel off a consonant. -/
def followsVirama (before : List Char) : Bool :=
  before.head?.any (combiningClass · == viramaClass)

/-- Whether all joiners stand where they may, when the characters `before`, the last of them
first, came before. -/
def joinersFit (before : List Char) : List Char → Bool
  | [] => true
  | c :: rest =>
    (if c == joiner then followsVirama before
      else if c == nonJoiner then
        followsVirama before || (joinsOnward before && joinsBackward rest)
      else true) &&
      joinersFit (c :: before) rest

end PoolClient.Unicode

import PoolClient.Url.Percent
/-!
# Paths

The path of a web address is a list of segments. A single dot is dropped, and a double dot takes
the segment before it away, unless that is a drive letter. Dots may be escaped, and a backslash
separates like a slash. Everything that may not stand in a path comes out escaped.
-/

namespace PoolClient.Url

/-- Whether `c` separates segments. -/
def isSeparator (c : Char) : Bool :=
  c == '/' || c == '\\'

/-- The segments of a path, after the slash it begins with. -/
def segments : List Char → List (List Char)
  | [] => [[]]
  | c :: rest =>
    if isSeparator c then [] :: segments rest
    else
      match segments rest with
      | s :: more => (c :: s) :: more
      | [] => [[c]]

/-- A segment with plain dots for escaped ones. -/
def plainDots : List Char → List Char
  | '%' :: '2' :: 'e' :: rest => '.' :: plainDots rest
  | '%' :: '2' :: 'E' :: rest => '.' :: plainDots rest
  | c :: rest => c :: plainDots rest
  | [] => []

/-- A letter and a colon or bar. -/
def isDriveLetter : List Char → Bool
  | [c, mark] => c.isAlpha && (mark == ':' || mark == '|')
  | _ => false

/-- The segments without the last one, which stands first here. -/
def withoutLast : List (List Char) → List (List Char)
  | s :: rest => if isDriveLetter s then s :: rest else rest
  | [] => []

/-- The segments of a normal path, where those in `done` came before, the last of them first. -/
def resolved (done : List (List Char)) : List (List Char) → List (List Char)
  | [] => done.reverse
  | s :: rest =>
    let done :=
      if plainDots s == ['.'] then done
      else if plainDots s == ['.', '.'] then withoutLast done
      else escaped standsInPath s :: done
    let dotted := plainDots s == ['.'] || plainDots s == ['.', '.']
    resolved (if dotted && rest.isEmpty then [] :: done else done) rest

/-- The path with these characters, which begin with a separator if there are any. -/
def pathText (cs : List Char) : List Char :=
  (resolved [] (segments (cs.drop 1))).flatMap ('/' :: ·)

end PoolClient.Url

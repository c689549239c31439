import PoolClient.Markup.Node
import PoolClient.Markup.Entity
import PoolClient.Markup.Token
/-!
# Documents

`readDocument` reads the root element of a document. It keeps the elements whose end tag is
still to come, innermost first, and lets every token act on them (`act`); when the last of them
closes, the rest of the document is not looked at. `tagged` writes the tags of an element.
-/

namespace PoolClient.Markup

/-- Why a document has no root element: its markup is broken, or it ends too early. -/
inductive MarkupError where
  | malformed
  | unexpectedEnd
  deriving DecidableEq, Repr

/-! ## Reading -/

/-- An element whose end tag is still to come: its name as written, and its content so far, the
last item first. -/
structure OpenElement where
  name : List Char
  content : List Node
  deriving Repr

/-- A name without its namespace prefix. -/
def localName (name : List Char) : List Char :=
  match name.dropWhile (· != ':') with
  | _ :: rest => rest
  | [] => name

/-- The element, once its end tag has come. -/
def OpenElement.close (e : OpenElement) : Element :=
  ⟨String.ofList (localName e.name), e.content.reverse⟩

/-- What a token makes of the open elements. -/
inductive Progress where
  | going (openElements : List OpenElement)
  | complete (root : Element)
  | malformed
  deriving Repr

/-- Put an item of content into the innermost open element. Outside the root it is lost. -/
def addContent (node : Node) : List OpenElement → List OpenElement
  | [] => []
  | e :: outer => { e with content := node :: e.content } :: outer

/-- A finished element goes into the one around it, or is the root. -/
def settle (e : Element) : List OpenElement → Progress
  | [] => .complete e
  | outer => .going (addContent e.toNode outer)

/-- The effect of one token. -/
def act (openElements : List OpenElement) : Token → Progress
  | .aside => .going openElements
  | .verbatim content => .going (addContent (.text (String.ofList content)) openElements)
  | .text raw =>
    match openElements with
    | [] => .going []
    | e :: outer =>
      match unescape raw with
      | some cs => .going (addContent (.text (String.ofList cs)) (e :: outer))
      | none => .malformed
  | .opening name => .going (⟨name, []⟩ :: openElements)
  | .empty name => settle (OpenElement.close ⟨name, []⟩) openElements
  | .closing name =>
    match openElements with
    | [] => .malformed
    | e :: outer => if e.name = name then settle e.close outer else .malformed

/-- Read on inside the open elements until the root closes. -/
def readOn (openElements : List OpenElement) (cs : List Char) : Except MarkupError Element :=
  match _h : Token.next cs with
  | .finished => .error .unexpectedEnd
  | .malformed => .error .malformed
  | .token t rest =>
    match act openElements t with
    | .going openElements => readOn openElements rest
    | .complete root => .ok root
    | .malformed => .error .malformed
termination_by cs.length
decreasing_by exact Token.next_length_lt _h

/-- A document without a leading byte order mark. -/
def dropMark : List Char → List Char
  | c :: rest => if c.toNat = 0xfeff then rest else c :: rest
  | [] => []

/-- The root element of a document. -/
def readDocument (text : String) : Except MarkupError Element :=
  readOn [] (dropMark text.toList)

theorem readOn_of_token {openElements : List OpenElement} {cs rest : List Char} {t : Token}
    (h : Token.next cs = .token t rest) :
    readOn openElements cs = match act openElements t with
      | .going openElements => readOn openElements rest
      | .complete root => .ok root
      | .malformed => .error .malformed := by
  rw [readOn]
  split <;> simp_all

/-! ## Writing -/

/-- `body` between the tags of an element. -/
def tagged (name : String) (body : List Char) : List Char :=
  ['<'] ++ name.toList ++ ['>'] ++ body ++ ['<', '/'] ++ name.toList ++ ['>']

end PoolClient.Markup

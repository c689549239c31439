import PoolClient.Message.Error
import PoolClient.Wire.Value
import PoolClient.Number.Reading
import PoolClient.Text.Base64
import PoolClient.Text.Blank
/-!
# Reading messages

A message is first read into an element tree, and the tree is then interpreted: `interpret`
reads a `<value>` element, `Call.ofElement` a `<methodCall>` and `Response.ofElement` a
`<methodResponse>`. Text between structural elements is skipped, text inside scalars is kept.
`parseValue`, `parseCall` and `parseResponse` do both steps.
-/

namespace PoolClient

open Markup Number Text

/-! ## Scalars -/

/-- The content of an integer element. A well-formed integer that is too wide for 64 bits is
kept as its digits, so that a reader who expects an integer can refuse it by name. -/
def integerContent (text : String) : Except MessageError Value :=
  let cs := trim text.toList
  match int64? cs with
  | some n => .ok (.int n)
  | none =>
    if isNumeral (splitSign cs).2 then .ok (.string (String.ofList cs))
    else .error (.invalidScalar .int text)

/-- The content of a double element. -/
def doubleContent (text : String) : Except MessageError Value :=
  match double? (trim text.toList) with
  | some x => .ok (.double x)
  | none => .error (.invalidScalar .double text)

/-- The content of a boolean element. -/
def booleanContent (text : String) : Except MessageError Value :=
  let word := trimmed text
  if word = "1" ∨ word = "true" then .ok (.boolean true)
  else if word = "0" ∨ word = "false" then .ok (.boolean false)
  else .error (.invalidScalar .boolean text)

/-- The content of a base64 element, which may be broken into lines. -/
def base64Content (text : String) : Except MessageError Value :=
  match Base64.decode? (text.toList.filter (!isAsciiBlank ·)) with
  | some bytes => .ok (.base64 bytes)
  | none => .error .invalidBase64

/-- The kinds of typed elements. -/
inductive Typing where
  | scalar (content : String → Except MessageError Value)
  | array
  | struct

/-- What the name of a typed element stands for. -/
def typing? (name : String) : Option Typing :=
  match name with
  | "string" => some (.scalar fun s => .ok (.string s))
  | "int" | "i4" | "i8" => some (.scalar integerContent)
  | "double" => some (.scalar doubleContent)
  | "boolean" => some (.scalar booleanContent)
  | "dateTime.iso8601" => some (.scalar fun s => .ok (.dateTime (trimmed s)))
  | "base64" => some (.scalar base64Content)
  | "array" => some .array
  | "struct" => some .struct
  | "nil" => some (.scalar fun _ => .ok .nil)
  | _ => none

/-! ## Values -/

/-- The first child element with the given name, which must be there. -/
def childOf (e : Element) (name : String) : Except MessageError Element :=
  match e.child? name with
  | some child => .ok child
  | none => .error (.missingElement name)

theorem mem_elements_of_childOf {e child : Element} {name : String}
    (h : childOf e name = .ok child) : child ∈ e.elements := by
  unfold childOf at h
  split at h
  · rename_i hc
    cases h
    exact e.mem_of_child? hc
  · cases h

mutual

/-- The value of a `<value>` element. Without a typed element in it, its text is a string. -/
def interpret (e : Element) : Except MessageError Value :=
  if e.name ≠ "value" then .error (.unexpectedElement "value" e.name)
  else
    match _h : e.elements with
    | [] => .ok (.string e.text)
    | [typed] =>
      match typing? typed.name with
      | none => .error (.unknownType typed.name)
      | some (.scalar content) => content typed.text
      | some .array =>
        match _hd : childOf typed "data" with
        | .error cause => .error cause
        | .ok data => (interpretItems data.elements).map .array
      | some .struct => (interpretMembers typed.elements).map .ofMembers
    | _ => .error .ambiguousValue
termination_by e.weight
decreasing_by
  · have h₁ := Element.weight_lt_of_mem (mem_elements_of_childOf _hd)
    have h₂ : typed.weight < e.weight := Element.weight_lt_of_mem (by simp [_h])
    exact Nat.lt_trans data.weights_elements_lt (Nat.lt_trans h₁ h₂)
  · have h₂ : typed.weight < e.weight := Element.weight_lt_of_mem (by simp [_h])
    exact Nat.lt_trans typed.weights_elements_lt h₂

/-- The values of `<value>` elements, up to the first that has none. -/
def interpretItems (items : List Element) : Except MessageError (List Value) :=
  match items with
  | [] => .ok []
  | e :: rest =>
    match interpret e with
    | .error cause => .error cause
    | .ok v => (interpretItems rest).map (v :: ·)
termination_by weights items
decreasing_by all_goals (simp only [weights]; omega)

/-- Names and values of `<member>` elements, in order, up to the first that has none. -/
def interpretMembers (members : List Element) : Except MessageError (List (String × Value)) :=
  match members with
  | [] => .ok []
  | e :: rest =>
    if e.name ≠ "member" then .error (.unexpectedElement "member" e.name)
    else
      match childOf e "name" with
      | .error cause => .error cause
      | .ok name =>
        match _hv : childOf e "value" with
        | .error cause => .error cause
        | .ok value =>
          match interpret value with
          | .error cause => .error cause
          | .ok v => (interpretMembers rest).map ((name.text, v) :: ·)
termination_by weights members
decreasing_by
  · have := Element.weight_lt_of_mem (mem_elements_of_childOf _hv)
    simp only [weights]
    omega
  · simp only [weights]
    omega

end

/-! ### Equations -/

theorem childOf_eq_ok_iff {e child : Element} {name : String} :
    childOf e name = .ok child ↔ e.child? name = some child := by
  unfold childOf
  cases e.child? name <;> simp

/-- What a typed element is read as. -/
def interpretTyped (typed : Element) : Except MessageError Value :=
  match typing? typed.name with
  | none => .error (.unknownType typed.name)
  | some (.scalar content) => content typed.text
  | some .array => childOf typed "data" >>= fun data => (interpretItems data.elements).map .array
  | some .struct => (interpretMembers typed.elements).map .ofMembers

theorem interpret_eq (e : Element) : interpret e =
    if e.name ≠ "value" then .error (.unexpectedElement "value" e.name)
    else match e.elements with
      | [] => .ok (.string e.text)
      | [typed] => interpretTyped typed
      | _ => .error .ambiguousValue := by
  rw [interpret]
  split
  · rfl
  · split
    · rename_i h
      rw [h]
    · rename_i typed h
      rw [h]
      simp only [interpretTyped]
      cases typing? typed.name with
      | none => rfl
      | some typing =>
        cases typing with
        | scalar content => rfl
        | array =>
          simp only
          split <;> rename_i hdata <;> rw [hdata] <;> rfl
        | struct => rfl
    · rename_i hnil hsingle
      split
      · exact absurd ‹_› hnil
      · exact absurd ‹_› (hsingle _)
      · rfl

theorem interpretItems_cons (e : Element) (rest : List Element) :
    interpretItems (e :: rest) =
      interpret e >>= fun v => (interpretItems rest).map (v :: ·) := by
  rw [interpretItems]
  cases interpret e <;> rfl

theorem interpretMembers_cons (e : Element) (rest : List Element) :
    interpretMembers (e :: rest) =
      if e.name ≠ "member" then .error (.unexpectedElement "member" e.name)
      else
        childOf e "name" >>= fun name =>
          childOf e "value" >>= fun value =>
            interpret value >>= fun v => (interpretMembers rest).map ((name.text, v) :: ·) := by
  rw [interpretMembers]
  split
  · rfl
  · cases childOf e "name" with
    | error cause => rfl
    | ok name =>
      simp only
      split <;> rename_i hvalue <;> rw [hvalue]
      · rfl
      · rename_i value
        simp only [bind, Except.bind]
        cases interpret value <;> rfl

/-! ## Calls and responses -/

/-- A method call: the name of the method and its parameters. -/
structure MethodCall where
  method : String
  params : List Value
  deriving Repr

/-- A method response: the result, or a fault. -/
inductive Response where
  | success (value : Value)
  | fault (value : Value)
  deriving Repr

/-- The value in each `<param>` element, up to the first that has none. -/
def interpretParams : List Element → Except MessageError (List Value)
  | [] => .ok []
  | e :: rest => do
    if e.name ≠ "param" then throw (.unexpectedElement "param" e.name)
    let v ← interpret (← childOf e "value")
    let vs ← interpretParams rest
    return v :: vs

/-- Read a `<methodCall>` element. A call may leave its parameters out. -/
def MethodCall.ofElement (root : Element) : Except MessageError MethodCall := do
  if root.name ≠ "methodCall" then throw (.unexpectedElement "methodCall" root.name)
  let name ← childOf root "methodName"
  let params ← match root.child? "params" with
    | some params => interpretParams params.elements
    | none => pure []
  return ⟨trimmed name.text, params⟩

/-- Read a `<methodResponse>` element, by the first element in it. -/
def Response.ofElement (root : Element) : Except MessageError Response := do
  if root.name ≠ "methodResponse" then throw (.unexpectedElement "methodResponse" root.name)
  match root.elements with
  | [] => throw (.missingElement "params")
  | body :: _ =>
    if body.name = "params" then
      let param ← childOf body "param"
      return .success (← interpret (← childOf param "value"))
    else if body.name = "fault" then
      return .fault (← interpret (← childOf body "value"))
    else throw (.unexpectedElement "params" body.name)

/-! ## Texts -/

/-- The root element of a text. -/
def rootElement (text : String) : Except MessageError Element :=
  (readDocument text).mapError .ofMarkup

/-- The call that a text holds. -/
def parseCall (text : String) : Except MessageError MethodCall :=
  (rootElement text).bind MethodCall.ofElement

/-- The response that a text holds. -/
def parseResponse (text : String) : Except MessageError Response :=
  (rootElement text).bind Response.ofElement

/-- The value that a text holds on its own. A blank text is nil. -/
def parseValue (text : String) : Except MessageError Value :=
  if text.toList.all isBlank then .ok .nil else (rootElement text).bind interpret

end PoolClient

/-!
# Element trees

A document is a tree of named elements with text between them. `Node` is one item of content,
`Element` an element taken out of its parent. What the readers of messages look at is the
concatenated text of an element (`Element.text`), its child elements in order
(`Element.elements`), and the first of them with a name (`Element.child?`).
-/

namespace PoolClient.Markup

/-- An item of content: text, or an element with its own content. -/
inductive Node where
  | text (content : String)
  | element (name : String) (children : List Node)
  deriving Repr, Inhabited

/-- An element: its name and its content. -/
structure Element where
  name : String
  children : List Node
  deriving Repr, Inhabited

/-- The element as an item of content. -/
def Element.toNode (e : Element) : Node :=
  .element e.name e.children

/-- The elements among some items of content, in order. -/
def elementsOf : List Node → List Element
  | [] => []
  | .text _ :: rest => elementsOf rest
  | .element name children :: rest => ⟨name, children⟩ :: elementsOf rest

/-- The text among some items of content, joined. -/
def textOf : List Node → String
  | [] => ""
  | .text s :: rest => s ++ textOf rest
  | .element _ _ :: rest => textOf rest

theorem elementsOf_append (before after : List Node) :
    elementsOf (before ++ after) = elementsOf before ++ elementsOf after := by
  induction before with
  | nil => rfl
  | cons node rest ih =>
    cases node with
    | text s => exact ih
    | element name children => exact congrArg (_ :: ·) ih

theorem textOf_append (before after : List Node) :
    textOf (before ++ after) = textOf before ++ textOf after := by
  induction before with
  | nil => exact (String.empty_append).symm
  | cons node rest ih =>
    cases node with
    | text s => rw [List.cons_append, textOf, ih, textOf, String.append_assoc]
    | element name children => exact ih

/-- The child elements, in order. -/
def Element.elements (e : Element) : List Element :=
  elementsOf e.children

/-- The text directly inside the element, with child elements left out. -/
def Element.text (e : Element) : String :=
  textOf e.children

/-- The first child element with the given name. -/
def Element.child? (e : Element) (name : String) : Option Element :=
  e.elements.find? (·.name == name)

/-! ## Weight

A reader that goes from an element to its children gets lighter content at each step. -/

/-- The size of an element's content. -/
noncomputable def Element.weight (e : Element) : Nat :=
  sizeOf e.children

/-- The weight of several elements: more than that of each, and than that of any part. -/
noncomputable def weights : List Element → Nat
  | [] => 0
  | e :: rest => e.weight + 1 + weights rest

theorem weights_elementsOf_lt : ∀ nodes : List Node, weights (elementsOf nodes) < sizeOf nodes
  | [] => by simp [elementsOf, weights]
  | .text _ :: rest => by
    have := weights_elementsOf_lt rest
    simp only [elementsOf, List.cons.sizeOf_spec]
    omega
  | .element _ _ :: rest => by
    have := weights_elementsOf_lt rest
    simp only [elementsOf, weights, Element.weight, List.cons.sizeOf_spec,
      Node.element.sizeOf_spec]
    omega

theorem Element.weights_elements_lt (e : Element) : weights e.elements < e.weight :=
  weights_elementsOf_lt e.children

theorem weight_lt_weights_of_mem {e : Element} : ∀ {es : List Element}, e ∈ es →
    e.weight < weights es
  | e' :: rest, h => by
    rcases List.mem_cons.1 h with rfl | h
    · simp only [weights]
      omega
    · have := weight_lt_weights_of_mem h
      simp only [weights]
      omega

theorem Element.weight_lt_of_mem {e child : Element} (h : child ∈ e.elements) :
    child.weight < e.weight :=
  Nat.lt_trans (weight_lt_weights_of_mem h) e.weights_elements_lt

theorem Element.mem_of_child? {e child : Element} {name : String}
    (h : e.child? name = some child) : child ∈ e.elements :=
  List.mem_of_find?_eq_some h

end PoolClient.Markup

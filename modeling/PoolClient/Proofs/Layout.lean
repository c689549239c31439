import Mathlib.Logic.Relation
import PoolClient.Proofs.ValueGrammar
/-!
# Layout of messages

Text directly inside a structural element is layout. A tree without its layout is its `bare` form,
which an edit of the layout leaves as it is (`LayoutEdit.bare_eq`) and which is all that the readers
of messages look at (`interpret_bare`, `MethodCall.ofElement_bare`, `Response.ofElement_bare`). So
trees that differ in their layout alone are read alike (`Relaid.read_alike`).
-/

namespace PoolClient

open Markup

/-! ## Edits of the layout -/

/-- The names of elements whose own text means nothing. -/
def structuralNames : List String :=
  ["methodResponse", "methodCall", "params", "param", "fault", "array", "data", "struct", "member"]

/-- An element whose own text means nothing. A value is one if there is an element in it. -/
def IsStructural (e : Element) : Prop :=
  e.name ∈ structuralNames ∨ e.name = "value" ∧ e.elements ≠ []

instance (e : Element) : Decidable (IsStructural e) :=
  inferInstanceAs (Decidable (_ ∨ _ ∧ _))

/-- An edit of the layout: a text directly inside a structural element is inserted, changed or
deleted, at any place and any depth. -/
inductive LayoutEdit : Element → Element → Prop where
  | insert (name : String) (before after : List Node) (text : String)
      (h : IsStructural ⟨name, before ++ after⟩) :
      LayoutEdit ⟨name, before ++ after⟩ ⟨name, before ++ .text text :: after⟩
  | change (name : String) (before after : List Node) (text new : String)
      (h : IsStructural ⟨name, before ++ .text text :: after⟩) :
      LayoutEdit ⟨name, before ++ .text text :: after⟩ ⟨name, before ++ .text new :: after⟩
  | delete (name : String) (before after : List Node) (text : String)
      (h : IsStructural ⟨name, before ++ .text text :: after⟩) :
      LayoutEdit ⟨name, before ++ .text text :: after⟩ ⟨name, before ++ after⟩
  | inside (name : String) (before after : List Node) {child child' : Element}
      (hchild : LayoutEdit child child') :
      LayoutEdit ⟨name, before ++ child.toNode :: after⟩ ⟨name, before ++ child'.toNode :: after⟩

/-- Any number of edits of the layout. -/
def Relaid : Element → Element → Prop :=
  Relation.ReflTransGen LayoutEdit

/-! ## Trees without layout -/

/-- Some content of an element, without its own text if the element is structural. -/
def dropLayout (e : Element) (content : List Node) : List Node :=
  if IsStructural e then (elementsOf content).map Element.toNode else content

mutual

/-- An item of content without the layout in it. -/
def bareNode : Node → Node
  | .text s => .text s
  | .element name children =>
    .element name (dropLayout ⟨name, children⟩ (bareNodes children))

/-- Some content without the layout in it. -/
def bareNodes : List Node → List Node
  | [] => []
  | node :: rest => bareNode node :: bareNodes rest

end

/-- The element without its layout. -/
def bare (e : Element) : Element :=
  ⟨e.name, dropLayout e (bareNodes e.children)⟩

theorem bareNode_toNode (e : Element) : bareNode e.toNode = (bare e).toNode := by
  rw [Element.toNode, bareNode, bare, Element.toNode]

theorem bareNodes_append (before after : List Node) :
    bareNodes (before ++ after) = bareNodes before ++ bareNodes after := by
  induction before with
  | nil => rfl
  | cons node rest ih => simp only [List.cons_append, bareNodes, ih]

theorem elementsOf_bareNodes (nodes : List Node) :
    elementsOf (bareNodes nodes) = (elementsOf nodes).map bare := by
  induction nodes with
  | nil => rfl
  | cons node rest ih =>
    cases node with
    | text s => rw [bareNodes, bareNode, elementsOf, ih, elementsOf]
    | element name children =>
      rw [bareNodes, bareNode, elementsOf, ih, elementsOf, List.map_cons, bare]

theorem textOf_bareNodes (nodes : List Node) : textOf (bareNodes nodes) = textOf nodes := by
  induction nodes with
  | nil => rfl
  | cons node rest ih =>
    cases node with
    | text s => rw [bareNodes, bareNode, textOf, ih, textOf]
    | element name children => rw [bareNodes, bareNode, textOf, ih, textOf]

theorem elementsOf_map_toNode (es : List Element) : elementsOf (es.map Element.toNode) = es := by
  induction es with
  | nil => rfl
  | cons e rest ih => rw [List.map_cons, Element.toNode, elementsOf, ih]

@[simp] theorem name_bare (e : Element) : (bare e).name = e.name :=
  rfl

@[simp] theorem elements_bare (e : Element) : (bare e).elements = e.elements.map bare := by
  rw [bare, Element.elements, Element.elements, ← elementsOf_bareNodes, dropLayout]
  split
  · exact elementsOf_map_toNode _
  · rfl

theorem bare_of_structural {e : Element} (h : IsStructural e) :
    bare e = ⟨e.name, (e.elements.map bare).map Element.toNode⟩ := by
  rw [bare, dropLayout, if_pos h, elementsOf_bareNodes, Element.elements]

/-- Text that is no layout is kept. -/
theorem text_bare {e : Element} (h : ¬IsStructural e) : (bare e).text = e.text := by
  rw [bare, dropLayout, if_neg h, Element.text, textOf_bareNodes, Element.text]

theorem child?_bare (e : Element) (name : String) :
    (bare e).child? name = (e.child? name).map bare := by
  rw [Element.child?, elements_bare, List.find?_map, Element.child?]
  rfl

theorem childOf_bare (e : Element) (name : String) :
    childOf (bare e) name = (childOf e name).map bare := by
  rw [childOf, child?_bare, childOf]
  cases e.child? name <;> rfl

/-! ## Edits leave the bare tree -/

/-- A text is no element. -/
theorem elements_insert_text (name : String) (before after : List Node) (text : String) :
    Element.elements ⟨name, before ++ .text text :: after⟩ =
      Element.elements ⟨name, before ++ after⟩ := by
  rw [Element.elements, Element.elements, elementsOf_append, elementsOf_append, elementsOf]

/-- A structural element is its name and its elements. -/
theorem IsStructural.bare_eq {e e' : Element} (h : IsStructural e) (hname : e.name = e'.name)
    (helements : e.elements = e'.elements) : bare e = bare e' := by
  have h' : IsStructural e' := by
    rwa [IsStructural, hname, helements] at h
  rw [bare_of_structural h, bare_of_structural h', hname, helements]

/-- An element with the same content, but for layout, has the same form without it. -/
theorem bare_congr {name : String} {nodes nodes' : List Node}
    (h : bareNodes nodes = bareNodes nodes') : bare ⟨name, nodes⟩ = bare ⟨name, nodes'⟩ := by
  have helements : (elementsOf nodes).map bare = (elementsOf nodes').map bare := by
    rw [← elementsOf_bareNodes, ← elementsOf_bareNodes, h]
  have hnone : elementsOf nodes = [] ↔ elementsOf nodes' = [] := by
    rw [← List.map_eq_nil_iff (f := bare), helements, List.map_eq_nil_iff]
  have hstructural : IsStructural ⟨name, nodes⟩ ↔ IsStructural ⟨name, nodes'⟩ := by
    simp only [IsStructural, Element.elements, ne_eq, hnone]
  simp only [bare, dropLayout, hstructural, h]

/-- An edit of the layout leaves the rest as it is. -/
theorem LayoutEdit.bare_eq {e e' : Element} (h : LayoutEdit e e') : bare e = bare e' := by
  induction h with
  | insert name before after text h =>
    exact h.bare_eq rfl (elements_insert_text name before after text).symm
  | change name before after text new h =>
    have htext := elements_insert_text name before after text
    exact h.bare_eq rfl (htext.trans (elements_insert_text name before after new).symm)
  | delete name before after text h =>
    exact h.bare_eq rfl (elements_insert_text name before after text)
  | inside name before after hchild ih =>
    refine bare_congr ?_
    rw [bareNodes_append, bareNodes_append, bareNodes, bareNodes, bareNode_toNode,
      bareNode_toNode, ih]

theorem Relaid.bare_eq {e e' : Element} (h : Relaid e e') : bare e = bare e' := by
  induction h with
  | refl => rfl
  | tail _ hedit ih => exact ih.trans hedit.bare_eq

/-! ## Readers look at the bare tree -/

/-- An element that is read by its text is not structural. -/
theorem not_isStructural_of_scalar {e : Element} {content : String → Except MessageError Value}
    (h : typing? e.name = some (.scalar content)) : ¬IsStructural e := by
  rintro (hname | ⟨hname, -⟩)
  · simp only [structuralNames, List.mem_cons, List.not_mem_nil, or_false] at hname
    rcases hname with hname | hname | hname | hname | hname | hname | hname | hname | hname <;>
      simp [hname, typing?] at h
  · simp [hname, typing?] at h

theorem name_of_childOf {e child : Element} {name : String} (h : childOf e name = .ok child) :
    child.name = name := by
  have hfound := List.find?_some (childOf_eq_ok_iff.1 h)
  exact beq_iff_eq.1 hfound

/-- The text of a child that is not structural by its name is kept. -/
theorem text_bare_of_childOf {e child : Element} {name : String} (h : childOf e name = .ok child)
    (hname : name ∉ "value" :: structuralNames) : (bare child).text = child.text := by
  refine text_bare ?_
  rw [IsStructural, name_of_childOf h]
  rintro (hstructural | ⟨rfl, -⟩)
  · exact hname (List.mem_cons_of_mem _ hstructural)
  · exact hname List.mem_cons_self

/-- To go on from a child, it is enough to look at its bare form. -/
theorem childOf_bare_bind {α : Type} {e : Element} {name : String}
    {read read' : Element → Except MessageError α}
    (h : ∀ child, childOf e name = .ok child → read (bare child) = read' child) :
    childOf (bare e) name >>= read = childOf e name >>= read' := by
  rw [childOf_bare]
  cases hchild : childOf e name with
  | error cause => rfl
  | ok child => exact h child hchild

-- The recursion is that of the reader, by weight.
mutual

/-- A value is read from the bare form of its element. -/
theorem interpret_bare (e : Element) : interpret (bare e) = interpret e := by
  rw [interpret_eq, interpret_eq, name_bare, elements_bare]
  split
  · rfl
  rename_i hname
  match helements : e.elements with
  | [] =>
    -- A value without an element in it is not structural, for its text is what is read.
    have hplain : ¬IsStructural e := by
      rw [IsStructural, Decidable.not_not.1 hname, helements]
      decide
    simp only [List.map_nil, text_bare hplain]
  | [typed] =>
    have htypedWeight : typed.weight < e.weight := Element.weight_lt_of_mem (by simp [helements])
    exact interpretTyped_bare typed
  | _ :: _ :: _ => rfl
termination_by e.weight
decreasing_by omega

theorem interpretTyped_bare (typed : Element) :
    interpretTyped (bare typed) = interpretTyped typed := by
  rw [interpretTyped, interpretTyped, name_bare]
  cases htyping : typing? typed.name with
  | none => rfl
  | some typing =>
    cases typing with
    | scalar content => simp only [text_bare (not_isStructural_of_scalar htyping)]
    | array =>
      refine childOf_bare_bind fun data hdata => ?_
      have hdataWeight := Element.weight_lt_of_mem (mem_elements_of_childOf hdata)
      have hitemsWeight := data.weights_elements_lt
      rw [elements_bare, interpretItems_bare data.elements]
    | struct =>
      have hmembersWeight := typed.weights_elements_lt
      simp only [elements_bare, interpretMembers_bare typed.elements]
termination_by typed.weight
decreasing_by all_goals omega

theorem interpretItems_bare (es : List Element) :
    interpretItems (es.map bare) = interpretItems es := by
  match es with
  | [] => rfl
  | e :: rest =>
    rw [List.map_cons, interpretItems_cons, interpretItems_cons, interpret_bare e,
      interpretItems_bare rest]
termination_by weights es
decreasing_by all_goals (simp only [weights]; omega)

theorem interpretMembers_bare (es : List Element) :
    interpretMembers (es.map bare) = interpretMembers es := by
  match es with
  | [] => rfl
  | e :: rest =>
    rw [List.map_cons, interpretMembers_cons, interpretMembers_cons, name_bare,
      interpretMembers_bare rest]
    split
    · rfl
    refine childOf_bare_bind fun name hname => childOf_bare_bind fun value hvalue => ?_
    have hvalueWeight := Element.weight_lt_of_mem (mem_elements_of_childOf hvalue)
    rw [interpret_bare value, text_bare_of_childOf hname (by decide)]
termination_by weights es
decreasing_by all_goals (simp only [weights]; omega)

end

theorem interpretParams_bare (es : List Element) :
    interpretParams (es.map bare) = interpretParams es := by
  induction es with
  | nil => rfl
  | cons e rest ih =>
    rw [List.map_cons, interpretParams, interpretParams, name_bare, ih]
    split
    · rfl
    · exact childOf_bare_bind fun value _ => by rw [interpret_bare]

/-- A call is read from the bare form of its element. -/
theorem MethodCall.ofElement_bare (root : Element) :
    MethodCall.ofElement (bare root) = MethodCall.ofElement root := by
  rw [MethodCall.ofElement, MethodCall.ofElement, name_bare, child?_bare]
  split
  · rfl
  refine childOf_bare_bind fun name hname => ?_
  rw [text_bare_of_childOf hname (by decide)]
  cases root.child? "params" with
  | none => rfl
  | some params => simp only [Option.map_some, elements_bare, interpretParams_bare]

/-- A response is read from the bare form of its element. -/
theorem Response.ofElement_bare (root : Element) :
    Response.ofElement (bare root) = Response.ofElement root := by
  rw [Response.ofElement, Response.ofElement, name_bare, elements_bare]
  cases root.elements with
  | nil => rfl
  | cons body rest =>
    have hname : (bare body).name = body.name := rfl
    simp only [List.map_cons]
    split
    · rfl
    by_cases hparams : body.name = "params"
    · rw [if_pos hparams, if_pos (hname.trans hparams)]
      refine childOf_bare_bind fun param _ => ?_
      exact childOf_bare_bind fun value _ => by rw [interpret_bare]
    rw [if_neg hparams, if_neg (hname ▸ hparams)]
    by_cases hfault : body.name = "fault"
    · rw [if_pos hfault, if_pos (hname.trans hfault)]
      exact childOf_bare_bind fun value _ => by rw [interpret_bare]
    · rw [if_neg hfault, if_neg (hname ▸ hfault), hname]

/-- Layout is irrelevant. Trees that differ in their layout alone are read alike as a response, as a
call and as a value, with the same result or the same error. -/
theorem Relaid.read_alike {e e' : Element} (h : Relaid e e') :
    Response.ofElement e = Response.ofElement e' ∧
      MethodCall.ofElement e = MethodCall.ofElement e' ∧ interpret e = interpret e' := by
  refine ⟨?_, ?_, ?_⟩
  · rw [← Response.ofElement_bare e, h.bare_eq, Response.ofElement_bare]
  · rw [← MethodCall.ofElement_bare e, h.bare_eq, MethodCall.ofElement_bare]
  · rw [← interpret_bare e, h.bare_eq, interpret_bare]

/-- A response in a single line, and with a line break in the response and in the array: the text of
the value in the array keeps its blanks. -/
theorem Relaid.read_alike_lines :
    let response (layout : List Node) : Element := ⟨"methodResponse", layout ++
      [.element "params" [.element "param" [.element "value" [.element "array" (layout ++
        [.element "data" [.element "value" [.text " a "]]])]]]]⟩
    Relaid (response []) (response [.text "\n"]) ∧
      Response.ofElement (response [.text "\n"]) = .ok (.success (.array [.string " a "])) := by
  intro response
  have hroot : LayoutEdit (response []) _ := .insert "methodResponse" [] _ "\n" (by decide)
  have harray : LayoutEdit ⟨"array", [.element "data" [.element "value" [.text " a "]]]⟩ _ :=
    .insert "array" [] _ "\n" (by decide)
  have hparams := ((harray.inside "value" [] []).inside "param" [] []).inside "params" [] []
  have hinside := hparams.inside "methodResponse" [.text "\n"] []
  have hrelaid : Relaid (response []) (response [.text "\n"]) := .tail (.single hroot) hinside
  have hvalue : interpret ⟨"value", [.element "array" [.element "data"
      [.element "value" [.text " a "]]]]⟩ = .ok (.array [.string " a "]) :=
    interpret_of_denotes (.array rfl rfl rfl rfl (.cons (.untyped rfl rfl) .nil))
  have hread : Response.ofElement (response []) = .ok (.success (.array [.string " a "])) :=
    congrArg (Except.map Response.success) hvalue
  exact ⟨hrelaid, hrelaid.read_alike.1 ▸ hread⟩

end PoolClient

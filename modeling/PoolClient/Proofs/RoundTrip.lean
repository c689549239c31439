import PoolClient.Proofs.Doubles
import PoolClient.Proofs.Members
import PoolClient.Proofs.Numerals
import PoolClient.Proofs.WrittenForms
/-!
# Messages read back

A value, a call or a response that is written out reads back, but for blanks around the texts of
dates (`Value.norm`) and around the name of a method. The text of a value is a writing of its
tree (`writing_value`), and the tree is interpreted as the value that arrives
(`interpret_element`). Of doubles it is asked that the written ones read back; without that, a
value arrives with each double as its printed form is read (`Value.received`), and all else in
place.
-/

namespace PoolClient

open Markup Number Text

/-! ## What is read back -/

namespace Value

mutual

/-- The value with the text of every date in it trimmed. -/
def norm : Value → Value
  | .dateTime s => .dateTime (trimmed s)
  | .array items => .array (normItems items)
  | .struct members => .struct (normMembers members)
  | v => v

/-- Every item with its dates trimmed. -/
def normItems : List Value → List Value
  | [] => []
  | v :: rest => v.norm :: normItems rest

/-- The value of every member with its dates trimmed. -/
def normMembers : List (String × Value) → List (String × Value)
  | [] => []
  | (n, v) :: rest => (n, v.norm) :: normMembers rest

end

mutual

/-- The doubles in a value, at any depth. -/
def doubles : Value → List Float
  | .double x => [x]
  | .array items => itemDoubles items
  | .struct members => memberDoubles members
  | _ => []

/-- The doubles in some items. -/
def itemDoubles : List Value → List Float
  | [] => []
  | v :: rest => v.doubles ++ itemDoubles rest

/-- The doubles in the values of some members. -/
def memberDoubles : List (String × Value) → List Float
  | [] => []
  | (_, v) :: rest => v.doubles ++ memberDoubles rest

end

end Value

/-- The printed form of a double parses back to it. -/
def ReadsBack (x : Float) : Prop :=
  double? (doubleText x).toList = some x

instance (x : Float) : Decidable (ReadsBack x) :=
  inferInstanceAs (Decidable (_ = _))

/-- The double that the printed form of a double is read as. -/
def printedBack (x : Float) : Float :=
  (double? (doubleText x).toList).getD x

theorem double?_doubleText (x : Float) : double? (doubleText x).toList = some (printedBack x) := by
  obtain ⟨y, hy⟩ := Option.isSome_iff_exists.1 (isSome_double?_doubleText x)
  rw [printedBack, hy]
  rfl

theorem ReadsBack.printedBack_eq {x : Float} (h : ReadsBack x) : printedBack x = x :=
  Option.some.inj ((double?_doubleText x).symm.trans h)

namespace Value

mutual

/-- The value as it arrives: the text of every date in it trimmed, and every double as its
printed form is read. -/
def received : Value → Value
  | .double x => .double (printedBack x)
  | .dateTime s => .dateTime (trimmed s)
  | .array items => .array (receivedItems items)
  | .struct members => .struct (receivedMembers members)
  | v => v

/-- Every item as it arrives. -/
def receivedItems : List Value → List Value
  | [] => []
  | v :: rest => v.received :: receivedItems rest

/-- The value of every member as it arrives. -/
def receivedMembers : List (String × Value) → List (String × Value)
  | [] => []
  | (n, v) :: rest => (n, v.received) :: receivedMembers rest

end

theorem map_name_receivedMembers (members : List (String × Value)) :
    (receivedMembers members).map (·.1) = members.map (·.1) := by
  induction members with
  | nil => rfl
  | cons m rest ih => rw [receivedMembers, List.map_cons, List.map_cons, ih]

/-- Members arrive in their order. -/
theorem pairwise_receivedMembers {members : List (String × Value)}
    (h : members.Pairwise (·.1 < ·.1)) : (receivedMembers members).Pairwise (·.1 < ·.1) := by
  have hnames : ((receivedMembers members).map (·.1)).Pairwise (· < ·) := by
    rw [map_name_receivedMembers, List.pairwise_map]
    exact h
  exact List.pairwise_map.1 hnames

mutual

/-- A value whose doubles read back arrives with its dates trimmed and nothing else changed. -/
theorem received_eq_norm : ∀ v : Value, (∀ x ∈ v.doubles, ReadsBack x) → v.received = v.norm
  | .double x, h => by
    have hx : ReadsBack x := h x (by simp [doubles])
    simp [received, norm, hx.printedBack_eq]
  | .array items, h => by rw [received, norm, receivedItems_eq_normItems items h]
  | .struct members, h => by rw [received, norm, receivedMembers_eq_normMembers members h]
  | .string _, _ | .int _, _ | .boolean _, _ | .dateTime _, _ | .base64 _, _ | .nil, _ => by
    simp [received, norm]

theorem receivedItems_eq_normItems : ∀ items : List Value,
    (∀ x ∈ itemDoubles items, ReadsBack x) → receivedItems items = normItems items
  | [], _ => rfl
  | v :: rest, h => by
    rw [receivedItems, normItems, received_eq_norm v fun x hx => h x (List.mem_append_left _ hx),
      receivedItems_eq_normItems rest fun x hx => h x (List.mem_append_right _ hx)]

theorem receivedMembers_eq_normMembers : ∀ members : List (String × Value),
    (∀ x ∈ memberDoubles members, ReadsBack x) → receivedMembers members = normMembers members
  | [], _ => rfl
  | (n, v) :: rest, h => by
    rw [receivedMembers, normMembers,
      received_eq_norm v fun x hx => h x (List.mem_append_left _ hx),
      receivedMembers_eq_normMembers rest fun x hx => h x (List.mem_append_right _ hx)]

end

end Value

/-- The value that a response carries. -/
def Response.payload : Response → Value
  | .success v => v
  | .fault v => v

/-- The response with the dates in its payload trimmed. -/
def Response.norm : Response → Response
  | .success v => .success v.norm
  | .fault v => .fault v.norm

/-! ## Trees of values -/

/-- A text as content: nothing if it is empty. -/
def textNodes (s : String) : List Node :=
  if s = "" then [] else [.text s]

@[simp] theorem textOf_textNodes (s : String) : textOf (textNodes s) = s := by
  unfold textNodes
  split
  · rename_i hs
    exact hs.symm
  · simp [textOf]

mutual

/-- The typed element that a value is written as. -/
def Value.typed : Value → Node
  | .string s => .element "string" (textNodes s)
  | .int n => .element "i8" (textNodes (int64Text n))
  | .double x => .element "double" (textNodes (doubleText x))
  | .boolean b => .element "boolean" (textNodes (if b then "1" else "0"))
  | .dateTime s => .element "dateTime.iso8601" (textNodes s)
  | .base64 bytes => .element "base64" (textNodes (String.ofList (Base64.encode bytes)))
  | .array items => .element "array" [.element "data" (itemNodes items)]
  | .struct members => .element "struct" (memberNodes members)
  | .nil => .element "nil" []

/-- Items as `<value>` elements. -/
def itemNodes : List Value → List Node
  | [] => []
  | v :: rest => .element "value" [v.typed] :: itemNodes rest

/-- Members as `<member>` elements. -/
def memberNodes : List (String × Value) → List Node
  | [] => []
  | (n, v) :: rest =>
    .element "member" [.element "name" (textNodes n), .element "value" [v.typed]] ::
      memberNodes rest

end

/-- The `<value>` element of a value. -/
def Value.element (v : Value) : Element :=
  ⟨"value", [v.typed]⟩

/-! ## Values are written as their trees -/

theorem writing_textNodes (s : String) : Writing (textNodes s) (escape s.toList) :=
  Writing.ofText s

theorem writing_plain {s : String} (h : PlainText s.toList) : Writing (textNodes s) s.toList := by
  have hs := writing_textNodes s
  rwa [h.escape_eq] at hs

mutual

/-- A value is written between the tags of a `<value>` element. -/
theorem writing_value : ∀ v : Value,
    ∃ body, writeValue v = tagged "value" body ∧ Writing [v.typed] body
  | .string s => ⟨_, rfl, .single (by decide) (writing_textNodes s)⟩
  | .int n => ⟨_, rfl, .single (by decide) (writing_plain (plainText_integerText n.toInt))⟩
  | .double x => ⟨_, rfl, .single (by decide) (writing_plain (plainText_doubleText x))⟩
  | .boolean true => ⟨_, rfl, .single (by decide) (writing_textNodes "1")⟩
  | .boolean false => ⟨_, rfl, .single (by decide) (writing_textNodes "0")⟩
  | .dateTime s => ⟨_, rfl, .single (by decide) (writing_textNodes s)⟩
  | .base64 bytes => by
    refine ⟨_, rfl, .single (by decide) ?_⟩
    have hplain : PlainText (String.ofList (Base64.encode bytes)).toList := by
      rw [String.toList_ofList]
      exact plainText_encode bytes
    simpa using writing_plain hplain
  | .array items => by
    have hitems := writing_items items
    exact ⟨_, rfl, .single (by decide) (.single (by decide) hitems)⟩
  | .struct members => by
    have hmembers := writing_members members
    exact ⟨_, rfl, .single (by decide) hmembers⟩
  | .nil => by
    have hnil : Writing [.element "nil" []] "<nil/>".toList :=
      .empty (show IsTagName "nil".toList by decide) .nil
    exact ⟨_, rfl, hnil⟩

theorem writing_items : ∀ items : List Value, Writing (itemNodes items) (writeItems items)
  | [] => .nil
  | v :: rest => by
    obtain ⟨body, hwrite, hbody⟩ := writing_value v
    rw [itemNodes, writeItems, hwrite]
    exact .element (by decide) hbody (writing_items rest)

theorem writing_members : ∀ members : List (String × Value),
    Writing (memberNodes members) (writeMembers members)
  | [] => .nil
  | (n, v) :: rest => by
    obtain ⟨body, hwrite, hbody⟩ := writing_value v
    have hvalue : Writing [.element "value" [v.typed]] (writeValue v) := by
      rw [hwrite]
      exact .single (by decide) hbody
    rw [memberNodes, writeMembers]
    have hname : Writing [.element "name" (textNodes n)] (tagged "name" (escape n.toList)) :=
      .single (by decide) (writing_textNodes n)
    exact .element (by decide) (hname.append hvalue rfl) (writing_members rest)

end

/-! ## Trees are interpreted as their values -/

/-- The first element in another is found by its name. -/
theorem childOf_head (name child : String) (children rest : List Node) :
    childOf ⟨name, .element child children :: rest⟩ child = .ok ⟨child, children⟩ := by
  simp [childOf, Element.child?, Element.elements, elementsOf]

/-- A `<value>` element is interpreted by the one typed element in it. -/
theorem interpret_typed (name : String) (children : List Node) :
    interpret ⟨"value", [.element name children]⟩ = interpretTyped ⟨name, children⟩ := by
  rw [interpret_eq]
  rfl

theorem integerContent_int64Text (n : Int64) : integerContent (int64Text n) = .ok (.int n) := by
  have htrim : trim (int64Text n).toList = (int64Text n).toList :=
    (plainText_integerText n.toInt).trim_eq
  simp only [integerContent, htrim, int64?_int64Text]

theorem doubleContent_doubleText (x : Float) :
    doubleContent (doubleText x) = .ok (.double (printedBack x)) := by
  have hx : double? (trim (doubleText x).toList) = some (printedBack x) := by
    rw [(plainText_doubleText x).trim_eq]
    exact double?_doubleText x
  rw [doubleContent, hx]

theorem base64Content_encode (bytes : List UInt8) :
    base64Content (String.ofList (Base64.encode bytes)) = .ok (.base64 bytes) := by
  rw [base64Content, String.toList_ofList, (plainText_encode bytes).filter_eq,
    Base64.decode?_encode]

mutual

/-- The element of a value is interpreted as the value that arrives. -/
theorem interpret_element : ∀ {v : Value}, v.Canonical → interpret v.element = .ok v.received
  | .string s, _ => by
    rw [Value.element, Value.typed, interpret_typed, interpretTyped]
    simp [typing?, Element.text, Value.received]
  | .int n, _ => by
    rw [Value.element, Value.typed, interpret_typed, interpretTyped]
    simp [typing?, Element.text, integerContent_int64Text, Value.received]
  | .double x, _ => by
    rw [Value.element, Value.typed, interpret_typed, interpretTyped]
    simp [typing?, Element.text, doubleContent_doubleText, Value.received]
  | .boolean true, _ => by
    rw [Value.element, Value.typed, interpret_typed, interpretTyped]
    rfl
  | .boolean false, _ => by
    rw [Value.element, Value.typed, interpret_typed, interpretTyped]
    rfl
  | .dateTime s, _ => by
    rw [Value.element, Value.typed, interpret_typed, interpretTyped]
    simp [typing?, Element.text, Value.received]
  | .base64 bytes, _ => by
    rw [Value.element, Value.typed, interpret_typed, interpretTyped]
    simp [typing?, Element.text, base64Content_encode, Value.received]
  | .array items, hc => by
    have hitems := interpret_items hc
    rw [Value.element, Value.typed, interpret_typed, interpretTyped]
    simp only [typing?, childOf_head, bind, Except.bind, Element.elements, hitems]
    rfl
  | .struct members, hc => by
    have hmembers := interpret_members hc.2
    have hsorted := Value.sortMembers_eq_self (Value.pairwise_receivedMembers hc.1)
    rw [Value.element, Value.typed, interpret_typed, interpretTyped]
    simp only [typing?, Element.elements, hmembers, Except.map, Value.ofMembers, hsorted,
      Value.received]
  | .nil, _ => by
    rw [Value.element, Value.typed, interpret_typed, interpretTyped]
    rfl

theorem interpret_items : ∀ {items : List Value}, Value.CanonicalItems items →
    interpretItems (elementsOf (itemNodes items)) = .ok (Value.receivedItems items)
  | [], _ => by
    rw [itemNodes, elementsOf, interpretItems]
    rfl
  | v :: rest, hc => by
    have hv := interpret_element hc.1
    have hrest := interpret_items hc.2
    rw [Value.element] at hv
    rw [itemNodes, elementsOf, interpretItems, hv, hrest]
    rfl

theorem interpret_members : ∀ {members : List (String × Value)}, Value.CanonicalMembers members →
    interpretMembers (elementsOf (memberNodes members)) = .ok (Value.receivedMembers members)
  | [], _ => by
    rw [memberNodes, elementsOf, interpretMembers]
    rfl
  | (n, v) :: rest, hc => by
    have hv := interpret_element hc.1
    have hrest := interpret_members hc.2
    have hname : childOf ⟨"member", [.element "name" (textNodes n), .element "value" [v.typed]]⟩
        "name" = .ok ⟨"name", textNodes n⟩ := childOf_head ..
    have hvalue : childOf ⟨"member", [.element "name" (textNodes n), .element "value" [v.typed]]⟩
        "value" = .ok v.element := rfl
    rw [memberNodes, elementsOf, interpretMembers_cons, if_neg (by simp), hname, hvalue]
    simp only [bind, Except.bind, hv, hrest, Element.text, textOf_textNodes]
    rfl

end

/-! ## Texts -/

/-- A document without a preamble. -/
theorem rootElement_tagged {name : String} {children : List Node} {body : List Char}
    (hname : IsTagName name.toList) (hbody : ReadUpToTag children body) :
    rootElement (String.ofList (tagged name body)) = .ok ⟨name, children⟩ := by
  have hmark : dropMark (tagged name body) = tagged name body := rfl
  have hread := readOn_tagged hname hbody []
  rw [List.append_nil] at hread
  rw [rootElement, readDocument, String.toList_ofList, hmark, hread]
  rfl

/-- A value on its own is interpreted from what stands between its tags. -/
theorem parseValue_tagged {children : List Node} {body : List Char}
    (hbody : ReadUpToTag children body) :
    parseValue (String.ofList (tagged "value" body)) = interpret ⟨"value", children⟩ := by
  have hblank : (String.ofList (tagged "value" body)).toList.all isBlank = false := by
    rw [String.toList_ofList]
    rfl
  rw [parseValue, hblank, rootElement_tagged (by decide) hbody]
  rfl

/-- The preamble of a document is passed over. -/
theorem readOn_preamble (cs : List Char) :
    readOn [] (preamble ++ '<' :: cs) = readOn [] ('<' :: cs) :=
  readOn_preamble_write (p := ⟨some " version=\"1.0\"".toList, ['\n']⟩) rfl cs

/-- A document with its preamble. -/
theorem rootElement_preamble {name : String} {children : List Node} {body : List Char}
    (hname : IsTagName name.toList) (hbody : ReadUpToTag children body) :
    rootElement (String.ofList (preamble ++ tagged name body)) = .ok ⟨name, children⟩ := by
  have hmark : dropMark (preamble ++ tagged name body) = preamble ++ tagged name body := rfl
  have hread := readOn_tagged hname hbody []
  rw [List.append_nil] at hread
  have hpreamble : readOn [] (preamble ++ tagged name body) = .ok ⟨name, children⟩ := by
    rw [← hread]
    exact readOn_preamble _
  rw [rootElement, readDocument, String.toList_ofList, hmark, hpreamble]
  rfl

/-- A value as it can be: structures list their members in order, and every double in it is
among those that read back. -/
def Value.Readable (v : Value) : Prop :=
  v.Canonical ∧ ∀ x ∈ v.doubles, ReadsBack x

theorem Value.Readable.received_eq {v : Value} (h : v.Readable) : v.received = v.norm :=
  v.received_eq_norm h.2

/-- A written value is read as it arrives. -/
theorem parseValue_received {v : Value} (h : v.Canonical) :
    parseValue (encodeValue v) = .ok v.received := by
  obtain ⟨body, hwrite, hbody⟩ := writing_value v
  rw [encodeValue, hwrite, parseValue_tagged hbody.readUpToTag]
  exact interpret_element h

/-- A written value reads back. -/
theorem parseValue_encodeValue {v : Value} (h : v.Readable) :
    parseValue (encodeValue v) = .ok v.norm := by
  rw [parseValue_received h.1, h.received_eq]

/-- The `<params>` element of some values. -/
def paramNodes (params : List Value) : List Node :=
  params.map fun v => .element "param" [.element "value" [v.typed]]

theorem writing_params (params : List Value) :
    Writing [.element "params" (paramNodes params)] (writeParams params) := by
  refine .single (by decide) ?_
  induction params with
  | nil => exact .nil
  | cons v rest ih =>
    obtain ⟨body, hwrite, hbody⟩ := writing_value v
    have hparam : Writing [.element "value" [v.typed]] (writeValue v) := by
      rw [hwrite]
      exact .single (by decide) hbody
    rw [paramNodes, List.map_cons, List.flatMap_cons]
    exact .element (by decide) hparam ih

/-- Written parameters are interpreted as the values that arrive. -/
theorem interpretParams_paramNodes {params : List Value} (h : ∀ v ∈ params, v.Canonical) :
    interpretParams (elementsOf (paramNodes params)) = .ok (params.map Value.received) := by
  induction params with
  | nil => rfl
  | cons v rest ih =>
    have hv := interpret_element (h v List.mem_cons_self)
    have hrest := ih fun v hv => h v (List.mem_cons_of_mem _ hv)
    rw [Value.element] at hv
    rw [paramNodes] at hrest
    rw [paramNodes, List.map_cons, elementsOf, interpretParams, childOf_head]
    simp only [bind, Except.bind, hv, hrest]
    rfl

/-- A call element with written parameters, whatever the name of its method is made of. -/
theorem ofElement_methodCall (children : List Node) {params : List Value}
    (h : ∀ v ∈ params, v.Canonical) :
    MethodCall.ofElement ⟨"methodCall",
        [.element "methodName" children, .element "params" (paramNodes params)]⟩ =
      .ok ⟨trimmed (textOf children), params.map Value.received⟩ := by
  have hparams : Element.child? ⟨"methodCall",
      [.element "methodName" children, .element "params" (paramNodes params)]⟩
      "params" = some ⟨"params", paramNodes params⟩ := rfl
  rw [MethodCall.ofElement, childOf_head, hparams]
  simp only [bind, Except.bind, Element.elements, interpretParams_paramNodes h, Element.text]
  rfl

/-- A written call reads back, with the name of its method trimmed. -/
theorem parseCall_encodeCall (method : String) {params : List Value}
    (h : ∀ v ∈ params, v.Readable) :
    parseCall (encodeCall method params) = .ok ⟨trimmed method, params.map Value.norm⟩ := by
  have hname : Writing [.element "methodName" (textNodes method)]
      (tagged "methodName" (escape method.toList)) :=
    .single (by decide) (writing_textNodes method)
  have hroot : rootElement (encodeCall method params) = .ok ⟨"methodCall",
      [.element "methodName" (textNodes method), .element "params" (paramNodes params)]⟩ :=
    rootElement_preamble (by decide) (hname.append (writing_params params) rfl).readUpToTag
  have hreceived : params.map Value.received = params.map Value.norm :=
    List.map_congr_left fun v hv => (h v hv).received_eq
  rw [parseCall, hroot, Except.bind, ofElement_methodCall _ fun v hv => (h v hv).1,
    textOf_textNodes, hreceived]

/-- A result in a written response is read as it arrives. -/
theorem parseResponse_success {v : Value} (h : v.Canonical) :
    parseResponse (encodeResponse (.success v)) = .ok (.success v.received) := by
  have hroot : rootElement (encodeResponse (.success v)) = .ok ⟨"methodResponse",
      [.element "params" [.element "param" [.element "value" [v.typed]]]]⟩ :=
    rootElement_preamble (by decide) (writing_params [v]).readUpToTag
  have hv := interpret_element h
  rw [Value.element] at hv
  rw [parseResponse, hroot, Except.bind, Response.ofElement]
  simp only [Element.elements, elementsOf, if_true, childOf_head, bind, Except.bind, hv]
  rfl

/-- A fault in a written response is read as it arrives. -/
theorem parseResponse_fault {v : Value} (h : v.Canonical) :
    parseResponse (encodeResponse (.fault v)) = .ok (.fault v.received) := by
  obtain ⟨body, hwrite, hbody⟩ := writing_value v
  have hfault : Writing [.element "fault" [.element "value" [v.typed]]]
      (tagged "fault" (writeValue v)) := by
    rw [hwrite]
    exact .single (by decide) (.single (by decide) hbody)
  have hroot : rootElement (encodeResponse (.fault v)) = .ok ⟨"methodResponse",
      [.element "fault" [.element "value" [v.typed]]]⟩ :=
    rootElement_preamble (by decide) hfault.readUpToTag
  have hv := interpret_element h
  rw [Value.element] at hv
  rw [parseResponse, hroot, Except.bind, Response.ofElement]
  simp only [Element.elements, elementsOf, childOf_head, bind, Except.bind, hv]
  rfl

/-- A written response reads back. -/
theorem parseResponse_encodeResponse {r : Response} (h : r.payload.Readable) :
    parseResponse (encodeResponse r) = .ok r.norm := by
  cases r with
  | success v =>
    have hv : v.Readable := h
    rw [parseResponse_success hv.1, hv.received_eq]
    rfl
  | fault v =>
    have hv : v.Readable := h
    rw [parseResponse_fault hv.1, hv.received_eq]
    rfl

/-- Values, calls and responses that are written out read back as they were, but for the blanks
around dates and around the name of a method. -/
theorem parse_encode :
    (∀ v : Value, v.Readable → parseValue (encodeValue v) = .ok v.norm) ∧
      (∀ (method : String) (params : List Value), (∀ v ∈ params, v.Readable) →
        parseCall (encodeCall method params) = .ok ⟨trimmed method, params.map Value.norm⟩) ∧
      ∀ r : Response, r.payload.Readable → parseResponse (encodeResponse r) = .ok r.norm :=
  ⟨fun _ => parseValue_encodeValue, fun method _ => parseCall_encodeCall method,
    fun _ => parseResponse_encodeResponse⟩

/-- Texts and names that look like markup, a date with blanks around it, and a double. -/
theorem parse_encode_markup :
    parseValue (encodeValue (.struct [("", .array [.string "<a/>", .double 0.1, .dateTime " now\n"]),
        ("&amp;", .nil)])) =
      .ok (.struct [("", .array [.string "<a/>", .double 0.1, .dateTime "now"]),
        ("&amp;", .nil)]) := by
  have hreadable : Value.Readable (.struct
      [("", .array [.string "<a/>", .double 0.1, .dateTime " now\n"]), ("&amp;", .nil)]) := by
    refine ⟨⟨?_, ?_⟩, ?_⟩
    · exact List.pairwise_pair.2 (by decide)
    · simp [Value.CanonicalMembers, Value.Canonical, Value.CanonicalItems]
    · intro x hx
      obtain rfl : x = 0.1 := by simpa [Value.doubles, Value.memberDoubles, Value.itemDoubles] using hx
      decide +kernel
  rw [parse_encode.1 _ hreadable]
  rfl

end PoolClient

import PoolClient.Proofs.Alone
import PoolClient.Proofs.Envelopes
import PoolClient.Session.Task
/-!
# Routes of server errors

The server reports an error as a list of texts, a code and its parameters, and such a list comes
on four routes: inside a fault, as the fault, in a failure envelope, and as the error of a task.
`ReportedAs` says what a description brings on the first three, and `ReportedByTask` what a list
brings on the last. The code and the parameters come out as they went in on every route
(`reported_by_every_route`): the list has passed through markup on the way, and only a fault adds
a number to it.
-/

namespace PoolClient

open Schema

/-- Texts as a value. -/
def Value.texts (info : List String) : Value :=
  .array (info.map .string)

namespace Value

@[simp] theorem receivedItems_map_string (info : List String) :
    receivedItems (info.map .string) = info.map .string := by
  induction info with
  | nil => rfl
  | cons s rest ih =>
    rw [List.map_cons, receivedItems, ih]
    simp [received]

/-- Texts arrive as they are. -/
@[simp] theorem received_texts (info : List String) : (texts info).received = texts info := by
  rw [texts, received, receivedItems_map_string]

@[simp] theorem received_string (s : String) : (string s).received = string s := by
  simp [received]

theorem canonical_texts (info : List String) : (texts info).Canonical := by
  induction info with
  | nil => trivial
  | cons s rest ih => exact ⟨trivial, ih⟩

theorem not_isEnvelope_texts (info : List String) : ¬ (texts info).IsEnvelope := by
  rintro (⟨w, h⟩ | ⟨description, h⟩)
  · cases h
  · cases h

end Value

open Value

/-! ## Faults and envelopes -/

/-- A description brings an error with the given code and parameters: inside a fault, whatever else
the fault holds, as the fault, and in a failure envelope. -/
structure ReportedAs (description : Value) (code : String) (params : List String) : Prop where
  inFault : ∀ members : List (String × Value), (Value.struct members).Canonical →
    member? members "faultString" = some description →
      Http.outcomeOfText (encodeResponse (.fault (.struct members))) =
        .error (.server ⟨code, params, ServerError.faultNumber (member? members "faultCode")⟩)
  asFault : Http.outcomeOfText (encodeResponse (.fault description)) =
    .error (.server ⟨code, params, none⟩)
  inEnvelope : Http.outcomeOfText (encodeResponse (.success description.failureEnvelope)) =
    .error (.server ⟨code, params, none⟩)

/-- The number of a fault arrives as it is. -/
theorem faultNumber_received (v : Option Value) :
    ServerError.faultNumber (v.map received) = ServerError.faultNumber v := by
  cases v with
  | none => rfl
  | some v => cases v <;> simp [received, ServerError.faultNumber]

/-- A description that is no structure and arrives as it is brings on the three routes what it
describes. -/
theorem reportedAs_of_received {description : Value} {code : String} {params : List String}
    (hcanonical : description.Canonical) (hreceived : description.received = description)
    (hmembers : description.members? = none)
    (h : ServerError.ofDescription description = ⟨code, params, none⟩) :
    ReportedAs description code params where
  inFault members hfault hdescription := by
    have hfound : member? (receivedMembers members) "faultString" = some description := by
      rw [member?_receivedMembers, hdescription, Option.map_some, hreceived]
    rw [outcomeOfText_fault hfault, received, ServerError.ofFault, hfound,
      member?_receivedMembers, faultNumber_received]
    simp only [h]
  asFault := by
    have hfault : ServerError.ofFault description = ServerError.ofDescription description := by
      cases description with
      | struct members => cases hmembers
      | _ => rfl
    rw [outcomeOfText_fault hcanonical, hreceived, hfault, h]
  inEnvelope := by rw [outcomeOfText_failureEnvelope hcanonical, hreceived, h]

/-- A list of texts describes the error with the first as its code and the others as its
parameters. -/
theorem ofDescription_texts (info : List String) :
    ServerError.ofDescription (texts info) = .ofInfo info := by
  have hparts : (info.map Value.string).map ServerError.partText = info := by
    rw [List.map_map]
    exact List.map_id _
  rw [texts, ServerError.ofDescription, hparts]

theorem reportedAs_texts {info : List String} {code : String} {params : List String}
    (h : ServerError.ofInfo info = ⟨code, params, none⟩) :
    ReportedAs (texts info) code params :=
  reportedAs_of_received (canonical_texts info) (received_texts info) rfl
    ((ofDescription_texts info).trans h)

theorem reportedAs_string (code : String) : ReportedAs (.string code) code [] :=
  reportedAs_of_received trivial (received_string code) rfl rfl

/-! ## Tasks -/

/-- A list brings an error with the given code and parameters as the error of a task: whoever asks
for the task and gets the answers that it has failed and, in a written response, that this is its
error, fails with it. -/
def ReportedByTask (info : List String) (code : String) (params : List String) : Prop :=
  ∀ {σ : Type} (T : Transport σ) (s : Shared) (t : σ) (h : Session) (result : WireType)
    (task label : String) (status : Ending σ (Outcome Value)),
    (h.call "task.get_status" [.string task]).alone T s t = status →
    status.result = .ok (.string "failure") →
    ((h.call "task.get_error_info" [.string task]).alone T status.shared
      status.transport).result = Http.outcomeOfText (encodeResponse (.success (texts info))) →
    ((Task.outcome h result task label).alone T s t).result = .error (.server ⟨code, params, none⟩)

variable {σ : Type} {T : Transport σ} {s : Shared} {t : σ}

/-- A call whose answer decodes gives the datum. -/
theorem alone_invoke_of_ok {h : Session} {method : String} {args : List Value} {result : WireType}
    {e : Ending σ (Outcome Value)} {v : Value} {d : Datum}
    (he : (h.call method args).alone T s t = e) (hv : e.result = .ok v)
    (hd : result.decode (method ++ " -> ") v = .ok d) :
    (h.invoke method args result).alone T s t = ⟨.ok d, e.shared, e.transport, e.deeds⟩ := by
  rw [Session.alone_invoke he, hv, Except.bind, hd]
  rfl

theorem decodeItems_text (label : String) (i : Nat) (info : List String) :
    decodeItems WireType.text.decode label i (info.map .string) = .ok (info.map .text) := by
  induction info generalizing i with
  | nil => rfl
  | cons s rest ih =>
    rw [List.map_cons, decodeItems, ih]
    rfl

theorem decode_texts (label : String) (info : List String) :
    (WireType.list .text).decode label (texts info) = .ok (.list (info.map .text)) := by
  simp only [WireType.decode_list, texts, arrayItems, bind, Except.bind, decodeItems_text]
  rfl

theorem reportedByTask {info : List String} {code : String} {params : List String}
    (h : ServerError.ofInfo info = ⟨code, params, none⟩) : ReportedByTask info code params := by
  intro σ T s t handle result task label status hstatus hfailure hinfo
  rw [outcomeOfText_success (canonical_texts info) (not_isEnvelope_texts info), received_texts]
    at hinfo
  have hlabel : Task.statusType.decode ("task.get_status" ++ " -> ") (.string "failure") =
      .ok (.label (.ofText Api.Enumeration.taskStatusType "failure")) := rfl
  have hfailed := alone_invoke_of_ok hstatus hfailure hlabel
  have hasked := alone_invoke_of_ok rfl hinfo (decode_texts _ info)
  have hparts : (info.map Datum.text).map Datum.asText = info := by
    rw [List.map_map]
    exact List.map_id _
  rw [Task.outcome, Program.alone_andThen_of_ok (congrArg Ending.result hfailed), hfailed]
  have hask : Task.Status.ofText (Datum.asText
      (.label (.ofText Api.Enumeration.taskStatusType "failure"))) = .failure := rfl
  simp only [hask]
  rw [Program.alone_andThen_of_ok (congrArg Ending.result hasked), hasked]
  simp [Datum.asItems, hparts, h]

/-! ## All routes -/

/-- A list of texts with a code in front brings the error with this code and the other texts as
parameters on every route, the code alone brings what the list of it alone brings, and an empty
list brings an internal error without parameters. -/
theorem reported_by_every_route :
    (∀ (code : String) (params : List String), ReportedAs (texts (code :: params)) code params ∧
      ReportedByTask (code :: params) code params) ∧
    (∀ code : String, ReportedAs (.string code) code []) ∧
    ReportedAs (texts []) "INTERNAL_ERROR" [] ∧ ReportedByTask [] "INTERNAL_ERROR" [] :=
  ⟨fun _ _ => ⟨reportedAs_texts rfl, reportedByTask rfl⟩, reportedAs_string,
    reportedAs_texts rfl, reportedByTask rfl⟩

/-- Every task has failed, for the same reason. -/
def failsTasks (info : List String) : Transport Unit :=
  fun t call =>
    (.ok (if call.method = "task.get_status" then .string "failure" else texts info), t)

/-- The state in which every login has a reference. -/
def Shared.loggedIn (ref : String) : Shared :=
  ⟨⟨.ofHost "a" true, 0, none⟩, fun _ => { Login.fresh with ref := some ref }⟩

/-- A code that looks like markup, and parameters that are empty or have blanks around them, in a
fault with a number and as the error of a task. -/
theorem reported_by_every_route_markup :
    let info := ["<A&B>", "", " p "]
    Http.outcomeOfText (encodeResponse (.fault (.struct
        [("faultCode", .string " -1 "), ("faultString", texts info), ("other", .double 0.1)]))) =
      .error (.server ⟨"<A&B>", ["", " p "], some (-1)⟩) ∧
    ((Task.outcome ⟨0, none⟩ .nothing "t" "l").alone (failsTasks info) (.loggedIn "r") ()).result =
      .error (.server ⟨"<A&B>", ["", " p "], none⟩) := by
  intro info
  obtain ⟨hlists, -⟩ := reported_by_every_route
  obtain ⟨hreported, htask⟩ := hlists "<A&B>" ["", " p "]
  have hcanonical : (Value.struct [("faultCode", .string " -1 "), ("faultString", texts info),
      ("other", .double 0.1)]).Canonical := by
    refine ⟨?_, trivial, canonical_texts info, trivial, trivial⟩
    simp only [List.pairwise_cons, List.forall_mem_cons]
    decide
  have hinfo := outcomeOfText_success (canonical_texts info) (not_isEnvelope_texts info)
  refine ⟨hreported.inFault _ hcanonical rfl, ?_⟩
  exact htask (failsTasks info) (.loggedIn "r") () ⟨0, none⟩ .nothing "t" "l" _ rfl rfl hinfo.symm

end PoolClient

import PoolClient.Api.Catalogue
import PoolClient.Proofs.Encoding
import PoolClient.Proofs.Outcomes
import PoolClient.Session.Session
/-!
# How operations are conducted

An operation of a class is a call of the method that the class and the operation name, and its
twin the call of the same method among the asynchronous ones. `Conduct` says what becomes of an
operation with some arguments. Either all arguments can be written and they are sent in the order
of the parameters, or nothing is sent and the error names the first argument that cannot be
written. Which of the two it is, what is sent and how it is refused depends on the arguments alone
(`written`), so an operation and its twin send the same or are refused alike
(`run_direct_and_twin`).
-/

namespace PoolClient.Session

open Schema

/-- What some arguments are sent as, or how the first of them that cannot be written is refused. -/
def written (args : List Datum) : Except Misfit (List Value) :=
  match Datum.unwritable? (Datum.itemLeaves args) with
  | none => .ok (args.map Datum.toWire)
  | some x => .error (.nonFiniteFloat x)

/-- The label of an argument of a method. -/
def argumentPlace (method : String) (p : Api.Parameter) : String :=
  method ++ "(" ++ p.name ++ ")"

/-- The arguments of a method, each with its label. -/
def labelled (method : String) (parameters : List Api.Parameter) (args : List Datum) :
    List (String × Datum) :=
  (parameters.zip args).map fun a => (argumentPlace method a.1, a.2)

/-- What becomes of an operation with some arguments, for its method, its parameters and the type
of its result. -/
inductive Conduct (h : Session) (method : String) (parameters : List Api.Parameter)
    (result : WireType) (args : List Datum) :
    Except Misfit (List Value) → Program (Outcome Datum) → Prop where
  /-- All arguments can be written. They are sent in the order of the parameters, and what comes
  back is read as the result. -/
  | sent {vs : List Value}
      (hwritten : (parameters.zip args).map (fun a => a.2.encode (argumentPlace method a.1)) =
        vs.map .ok) :
      Conduct h method parameters result args (.ok vs)
        ((h.call method vs).andThen fun v =>
          .given (result.decode (method ++ " -> ") v) fun d => .done (.ok d))
  /-- The arguments before some place can be written, and the one there cannot. Nothing is done,
  and the label of the error begins with the name of the parameter. -/
  | refused {before after : List (Api.Parameter × Datum)} {p : Api.Parameter} {d : Datum}
      {e : CodecError} (hargs : parameters.zip args = before ++ (p, d) :: after)
      (hbefore : ∀ a ∈ before, ∃ v, a.2.encode (argumentPlace method a.1) = .ok v)
      (herror : d.encode (argumentPlace method p) = .error e)
      (hlabel : Extends (argumentPlace method p) e.label) :
      Conduct h method parameters result args (.error e.misfit) (.done (.error (.codec e)))

variable {s : Api.Signature} {parameters : List Api.Parameter} {args : List Datum}

/-- The arguments of an operation are written one after the other. -/
theorem encodeArguments_eq_mapM : encodeArguments s parameters args =
    (labelled s.method parameters args).mapM fun a => a.2.encode a.1 := by
  induction parameters generalizing args with
  | nil => rfl
  | cons p rest ih =>
    cases args with
    | nil => rfl
    | cons d args =>
      have hlabelled : labelled s.method (p :: rest) (d :: args) =
          (s.argumentLabel p, d) :: labelled s.method rest args := rfl
      rw [encodeArguments, ih, hlabelled, mapM_cons_eq]
      cases d.encode (s.argumentLabel p) <;> rfl

theorem map_toWire_zip (hlength : args.length = parameters.length) :
    (parameters.zip args).map (fun a => a.2.toWire) = args.map Datum.toWire := by
  have hsecond : (parameters.zip args).map Prod.snd = args :=
    List.map_snd_zip (Nat.le_of_eq hlength)
  conv => rhs; rw [← hsecond, List.map_map]
  rfl

/-- Arguments that can be written are written one by one. -/
theorem encodeArguments_of_writes (hlength : args.length = parameters.length)
    (hwrites : ∀ d ∈ args, d.Writes) :
    encodeArguments s parameters args = .ok (args.map Datum.toWire) := by
  rw [encodeArguments_eq_mapM, mapM_eq_ok_iff, labelled, ← map_toWire_zip hlength,
    List.forall₂_map_left_iff, List.forall₂_map_right_iff, List.forall₂_same]
  exact fun a ha => hwrites a.2 (List.of_mem_zip ha).2 _

theorem map_encode_of_writes {place : Api.Parameter → String}
    (hlength : args.length = parameters.length) (hwrites : ∀ d ∈ args, d.Writes) :
    (parameters.zip args).map (fun a => a.2.encode (place a.1)) =
      (args.map Datum.toWire).map .ok := by
  rw [← map_toWire_zip hlength, List.map_map]
  exact List.map_congr_left fun a ha => hwrites a.2 (List.of_mem_zip ha).2 _

/-- The first argument that cannot be written is refused by its name. -/
theorem exists_refused (place : Api.Parameter → String) {x : Float}
    (hlength : args.length = parameters.length)
    (h : Datum.unwritable? (Datum.itemLeaves args) = some x) :
    ∃ before p d after e, parameters.zip args = before ++ (p, d) :: after ∧
      (∀ a ∈ before, ∃ v, a.2.encode (place a.1) = .ok v) ∧
      d.encode (place p) = .error e ∧ Extends (place p) e.label ∧
      e.misfit = .nonFiniteFloat x := by
  induction parameters generalizing args with
  | nil =>
    obtain rfl := List.length_eq_zero_iff.1 hlength
    cases h
  | cons p rest ih =>
    cases args with
    | nil => cases hlength
    | cons d args =>
      rw [Datum.itemLeaves, Datum.unwritable?_append] at h
      cases hd : Datum.unwritable? d.leaves with
      | some y =>
        rw [hd] at h
        cases h
        obtain ⟨l, hl, herror⟩ := Datum.encode_of_unwritable hd (place p)
        exact ⟨[], p, d, rest.zip args, _, rfl, List.forall_mem_nil _, herror, hl, rfl⟩
      | none =>
        rw [hd] at h
        have hwrites := Datum.writes_of_finite d hd (place p)
        obtain ⟨before, p', d', after, e, hzip, hbefore, hrefused⟩ := ih (Nat.succ.inj hlength) h
        refine ⟨(p, d) :: before, p', d', after, e, ?_, ?_, hrefused⟩
        · rw [List.zip_cons_cons, hzip, List.cons_append]
        · exact List.forall_mem_cons.2 ⟨⟨_, hwrites⟩, hbefore⟩

/-- Running a signature is conducted as its arguments can be written. -/
theorem conduct_run (h : Session) (s : Api.Signature) {args : List Datum}
    (hlength : args.length = s.parameters.length) :
    Conduct h s.method s.parameters s.result args (written args) (h.run s args) := by
  unfold written
  cases hargs : Datum.unwritable? (Datum.itemLeaves args) with
  | none =>
    have hwrites := Datum.writes_items args hargs
    rw [run, encodeArguments_of_writes hlength hwrites]
    exact .sent (map_encode_of_writes hlength hwrites)
  | some x =>
    obtain ⟨before, p, d, after, e, hzip, hbefore, herror, hlabel, hmisfit⟩ :=
      exists_refused (argumentPlace s.method) hlength hargs
    have hencode : encodeArguments s s.parameters args = .error e := by
      rw [encodeArguments_eq_mapM, mapM_eq_error_iff, labelled, hzip, List.map_append,
        List.map_cons]
      exact ⟨_, _, _, rfl, List.forall_mem_map.2 hbefore, herror⟩
    rw [run, hencode]
    simp only [← hmisfit]
    exact .refused hzip hbefore herror hlabel

/-- An operation with as many arguments as it has parameters, and its twin. The operation calls
the method that class and operation name, and answers with its result; the twin calls the method
among the asynchronous ones, and answers with the reference of a task. Both send the same
arguments in the order of the parameters, or both are refused before anything is sent, alike and
for the same argument. -/
theorem run_direct_and_twin (h : Session) (i : Api.Interface) (op : Api.Operation)
    (args : List Datum) (hlength : args.length = op.parameters.length) :
    Conduct h (i.wireName ++ "." ++ op.wireName) op.parameters op.result args (written args)
        (h.run (op.direct i.wireName) args) ∧
      Conduct h ("Async." ++ i.wireName ++ "." ++ op.wireName) op.parameters (.reference "task")
        args (written args) (h.run (op.twin i.wireName) args) :=
  ⟨conduct_run h (op.direct i.wireName) hlength, conduct_run h (op.twin i.wireName) hlength⟩

/-- Moving an interface to another network, which has another name in messages, and setting the
progress of a task to a double that is not finite, which is refused. -/
theorem run_direct_and_twin_move :
    let move := Api.Operation.wired "move" (Api.tasked "move_to"
      [Api.self "VIF", ⟨"network", .reference "network"⟩] .nothing)
    let setProgress := Api.plain "set_progress" [Api.self "task", ⟨"value", .real⟩] .nothing
    let infinite := Float.ofBits 0x7ff0000000000000
    move ∈ Api.vifInterface.operations ∧ setProgress ∈ Api.taskInterface.operations ∧
      Conduct ⟨0, none⟩ "VIF.move" move.parameters .nothing [.reference "v", .reference "n"]
        (.ok [.string "v", .string "n"])
        (run ⟨0, none⟩ (move.direct "VIF") [.reference "v", .reference "n"]) ∧
      Conduct ⟨0, none⟩ "Async.VIF.move" move.parameters (.reference "task")
        [.reference "v", .reference "n"] (.ok [.string "v", .string "n"])
        (run ⟨0, none⟩ (move.twin "VIF") [.reference "v", .reference "n"]) ∧
      Conduct ⟨0, none⟩ "task.set_progress" setProgress.parameters .nothing
        [.reference "t", .real infinite] (.error (.nonFiniteFloat infinite))
        (run ⟨0, none⟩ (setProgress.direct "task") [.reference "t", .real infinite]) := by
  intro move setProgress infinite
  have hmove := run_direct_and_twin ⟨0, none⟩ Api.vifInterface move
    [.reference "v", .reference "n"] rfl
  have hset := run_direct_and_twin ⟨0, none⟩ Api.taskInterface setProgress
    [.reference "t", .real infinite] rfl
  have hinfinite : written [.reference "t", .real infinite] = .error (.nonFiniteFloat infinite) := by
    have hnot : infinite.isFinite = false := by decide +kernel
    simp [written, Datum.itemLeaves, Datum.leaves, Datum.unwritable?, List.findSome?_cons,
      Datum.notFinite?, hnot]
  rw [hinfinite] at hset
  exact ⟨by simp [Api.vifInterface, move], by simp [Api.taskInterface, setProgress], hmove.1,
    hmove.2, hset.1⟩

end PoolClient.Session

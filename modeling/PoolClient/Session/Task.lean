import PoolClient.Session.Session
/-!
# Following tasks

A task runs on the server and is polled by its reference. `Task.outcome` polls once: a finished
task gives the result that the operation itself would have given, or its error. `Task.waitFor`
polls until the task has ended.
-/

namespace PoolClient.Task

open Time Schema

/-- Where a task stands. -/
inductive Status where
  | pending | success | failure | cancelling | cancelled
  | unknown (label : String)
  deriving DecidableEq, Repr

/-- The status with the given label. -/
def Status.ofText : String → Status
  | "pending" => .pending
  | "success" => .success
  | "failure" => .failure
  | "cancelling" => .cancelling
  | "cancelled" => .cancelled
  | label => .unknown label

/-- Read the result of a task, which holds a wire value as text, as a type. -/
def decodeResult (result : WireType) (label text : String) : Outcome Datum :=
  (result.decodeText label text).mapError .codec

/-- The type of a task's status. -/
def statusType : WireType :=
  .label Api.Enumeration.taskStatusType

/-- Poll a task once. A task that has not ended gives `none`. -/
def outcome (h : Session) (result : WireType) (task label : String) :
    Program (Outcome (Option Datum)) :=
  (h.invoke "task.get_status" [.string task] statusType).andThen fun status =>
    match Status.ofText status.asText with
    | .pending | .cancelling => .done (.ok none)
    | .success =>
      (h.invoke "task.get_result" [.string task] .text).andThen fun text =>
        .done ((decodeResult result label text.asText).map some)
    | .failure =>
      (h.invoke "task.get_error_info" [.string task] (.list .text)).andThen fun info =>
        .done (.error (.server (.ofInfo (info.asItems.map Datum.asText))))
    | .cancelled => .done (.error (.taskCancelled task))
    | .unknown text => .done (.error (.codec ⟨"task.get_status -> ", .unknownLabel text⟩))

/-- Poll a task at an interval until it has ended, at most `polls` times; `none` if it has not
ended by then. -/
def waitFor (h : Session) (result : WireType) (task label : String) (interval : Duration) :
    Nat → Program (Outcome (Option Datum))
  | 0 => .done (.ok none)
  | polls + 1 =>
    (outcome h result task label).andThen fun
      | some d => .done (.ok (some d))
      | none => .pause interval (waitFor h result task label interval polls)

end PoolClient.Task

import PoolClient.Api.Operation
/-!
# Operations on long-running operations
-/

namespace PoolClient.Api

open PoolClient.Schema

/-- The operations of the class `task`. -/
def taskInterface : Interface where
  name := "Task"
  wireName := "task"
  operations := [
    plain "get_record" [self Class.task] Record.task,
    plain "get_by_uuid" [⟨"uuid", .text⟩] (.reference Class.task),
    plain "get_by_name_label" [⟨"label", .text⟩] (.list (.reference Class.task)),
    plain "get_uuid" [self Class.task] .text,
    plain "get_name_label" [self Class.task] .text,
    plain "get_name_description" [self Class.task] .text,
    plain "get_allowed_operations" [
      self Class.task] (.set (.label Enumeration.taskAllowedOperations)),
    plain "get_current_operations" [
      self Class.task] (.map .text (.label Enumeration.taskAllowedOperations)),
    plain "get_created" [self Class.task] .instant,
    plain "get_finished" [self Class.task] .instant,
    plain "get_status" [self Class.task] (.label Enumeration.taskStatusType),
    plain "get_resident_on" [self Class.task] (.reference Class.host),
    plain "get_progress" [self Class.task] .real,
    plain "get_type" [self Class.task] .text,
    plain "get_result" [self Class.task] .text,
    plain "get_error_info" [self Class.task] (.list .text),
    plain "get_other_config" [self Class.task] (.map .text .text),
    plain "get_subtask_of" [self Class.task] (.reference Class.task),
    plain "get_subtasks" [self Class.task] (.set (.reference Class.task)),
    plain "get_backtrace" [self Class.task] .text,
    plain "set_other_config" [self Class.task, ⟨"value", .map .text .text⟩] .nothing,
    plain "add_to_other_config" [self Class.task, ⟨"key", .text⟩, ⟨"value", .text⟩] .nothing,
    plain "remove_from_other_config" [self Class.task, ⟨"key", .text⟩] .nothing,
    plain "create" [⟨"label", .text⟩, ⟨"description", .text⟩] (.reference Class.task),
    plain "destroy" [self Class.task] .nothing,
    tasked "cancel" [⟨"task", .reference Class.task⟩] .nothing,
    plain "set_status" [self Class.task, ⟨"value", .label Enumeration.taskStatusType⟩] .nothing,
    plain "set_progress" [self Class.task, ⟨"value", .real⟩] .nothing,
    plain "set_result" [self Class.task, ⟨"value", .text⟩] .nothing,
    plain "set_error_info" [self Class.task, ⟨"value", .list .text⟩] .nothing,
    plain "get_all" [] (.list (.reference Class.task)),
    plain "get_all_records" [] (.map (.reference Class.task) Record.task)]

end PoolClient.Api

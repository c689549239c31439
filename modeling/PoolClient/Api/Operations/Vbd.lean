import PoolClient.Api.Operation
/-!
# Operations on virtual block devices
-/

namespace PoolClient.Api

open PoolClient.Schema

/-- The operations of the class `VBD`. -/
def vbdInterface : Interface where
  name := "Vbd"
  wireName := "VBD"
  operations := [
    plain "get_record" [self Class.vbd] Record.vbd,
    plain "get_by_uuid" [⟨"uuid", .text⟩] (.reference Class.vbd),
    tasked "create" [⟨"args", Record.vbd⟩] (.reference Class.vbd),
    tasked "destroy" [self Class.vbd] .nothing,
    plain "get_uuid" [self Class.vbd] .text,
    plain "get_allowed_operations" [self Class.vbd] (.set (.label Enumeration.vbdOperations)),
    plain "get_current_operations" [
      self Class.vbd] (.map .text (.label Enumeration.vbdOperations)),
    .wired "get_VM" <| plain "get_vm" [self Class.vbd] (.reference Class.vm),
    .wired "get_VDI" <| plain "get_vdi" [self Class.vbd] (.reference Class.vdi),
    plain "get_device" [self Class.vbd] .text,
    plain "get_userdevice" [self Class.vbd] .text,
    plain "get_bootable" [self Class.vbd] .flag,
    plain "get_mode" [self Class.vbd] (.label Enumeration.vbdMode),
    plain "get_type" [self Class.vbd] (.label Enumeration.vbdType),
    plain "get_unpluggable" [self Class.vbd] .flag,
    plain "get_storage_lock" [self Class.vbd] .flag,
    plain "get_empty" [self Class.vbd] .flag,
    plain "get_other_config" [self Class.vbd] (.map .text .text),
    plain "get_currently_attached" [self Class.vbd] .flag,
    plain "get_status_code" [self Class.vbd] .integer,
    plain "get_status_detail" [self Class.vbd] .text,
    plain "get_runtime_properties" [self Class.vbd] (.map .text .text),
    plain "get_qos_algorithm_type" [self Class.vbd] .text,
    plain "get_qos_algorithm_params" [self Class.vbd] (.map .text .text),
    plain "get_qos_supported_algorithms" [self Class.vbd] (.set .text),
    plain "get_metrics" [self Class.vbd] (.reference Class.vbdMetrics),
    plain "set_userdevice" [self Class.vbd, ⟨"value", .text⟩] .nothing,
    plain "set_bootable" [self Class.vbd, ⟨"value", .flag⟩] .nothing,
    plain "set_type" [self Class.vbd, ⟨"value", .label Enumeration.vbdType⟩] .nothing,
    plain "set_unpluggable" [self Class.vbd, ⟨"value", .flag⟩] .nothing,
    plain "set_other_config" [self Class.vbd, ⟨"value", .map .text .text⟩] .nothing,
    plain "add_to_other_config" [self Class.vbd, ⟨"key", .text⟩, ⟨"value", .text⟩] .nothing,
    plain "remove_from_other_config" [self Class.vbd, ⟨"key", .text⟩] .nothing,
    plain "set_qos_algorithm_type" [self Class.vbd, ⟨"value", .text⟩] .nothing,
    plain "set_qos_algorithm_params" [self Class.vbd, ⟨"value", .map .text .text⟩] .nothing,
    plain "add_to_qos_algorithm_params" [self Class.vbd, ⟨"key", .text⟩,
      ⟨"value", .text⟩] .nothing,
    plain "remove_from_qos_algorithm_params" [self Class.vbd, ⟨"key", .text⟩] .nothing,
    tasked "eject" [⟨"vbd", .reference Class.vbd⟩] .nothing,
    tasked "insert" [⟨"vbd", .reference Class.vbd⟩, ⟨"vdi", .reference Class.vdi⟩] .nothing,
    tasked "plug" [self Class.vbd] .nothing,
    tasked "unplug" [self Class.vbd] .nothing,
    tasked "unplug_force" [self Class.vbd] .nothing,
    tasked "assert_attachable" [self Class.vbd] .nothing,
    tasked "set_mode" [self Class.vbd, ⟨"value", .label Enumeration.vbdMode⟩] .nothing,
    plain "get_all" [] (.list (.reference Class.vbd)),
    plain "get_all_records" [] (.map (.reference Class.vbd) Record.vbd)]

end PoolClient.Api

import PoolClient.Api.Operation
/-!
# Operations on virtual disk images
-/

namespace PoolClient.Api

open PoolClient.Schema

/-- The operations of the class `VDI`. -/
def vdiInterface : Interface where
  name := "Vdi"
  wireName := "VDI"
  operations := [
    plain "get_record" [self Class.vdi] Record.vdi,
    plain "get_by_uuid" [⟨"uuid", .text⟩] (.reference Class.vdi),
    tasked "create" [⟨"args", Record.vdi⟩] (.reference Class.vdi),
    tasked "destroy" [self Class.vdi] .nothing,
    plain "get_by_name_label" [⟨"label", .text⟩] (.list (.reference Class.vdi)),
    plain "get_uuid" [self Class.vdi] .text,
    plain "get_name_label" [self Class.vdi] .text,
    plain "get_name_description" [self Class.vdi] .text,
    plain "get_allowed_operations" [self Class.vdi] (.set (.label Enumeration.vdiOperations)),
    plain "get_current_operations" [
      self Class.vdi] (.map .text (.label Enumeration.vdiOperations)),
    .wired "get_SR" <| plain "get_sr" [self Class.vdi] (.reference Class.sr),
    .wired "get_VBDs" <| plain "get_vbds" [self Class.vdi] (.list (.reference Class.vbd)),
    plain "get_crash_dumps" [self Class.vdi] (.set (.reference Class.crashdump)),
    plain "get_virtual_size" [self Class.vdi] .integer,
    plain "get_physical_utilisation" [self Class.vdi] .integer,
    plain "get_type" [self Class.vdi] (.label Enumeration.vdiType),
    plain "get_sharable" [self Class.vdi] .flag,
    plain "get_read_only" [self Class.vdi] .flag,
    plain "get_other_config" [self Class.vdi] (.map .text .text),
    plain "get_storage_lock" [self Class.vdi] .flag,
    plain "get_location" [self Class.vdi] .text,
    plain "get_managed" [self Class.vdi] .flag,
    plain "get_missing" [self Class.vdi] .flag,
    plain "get_parent" [self Class.vdi] (.reference Class.vdi),
    plain "get_xenstore_data" [self Class.vdi] (.map .text .text),
    plain "get_sm_config" [self Class.vdi] (.map .text .text),
    plain "get_is_a_snapshot" [self Class.vdi] .flag,
    plain "get_snapshot_of" [self Class.vdi] (.reference Class.vdi),
    plain "get_snapshots" [self Class.vdi] (.set (.reference Class.vdi)),
    plain "get_snapshot_time" [self Class.vdi] .instant,
    plain "get_tags" [self Class.vdi] (.set .text),
    plain "get_allow_caching" [self Class.vdi] .flag,
    plain "get_on_boot" [self Class.vdi] (.label Enumeration.onBoot),
    plain "get_metadata_of_pool" [self Class.vdi] (.reference Class.pool),
    plain "get_metadata_latest" [self Class.vdi] .flag,
    plain "get_is_tools_iso" [self Class.vdi] .flag,
    plain "get_cbt_enabled" [self Class.vdi] .flag,
    plain "set_other_config" [self Class.vdi, ⟨"value", .map .text .text⟩] .nothing,
    plain "add_to_other_config" [self Class.vdi, ⟨"key", .text⟩, ⟨"value", .text⟩] .nothing,
    plain "remove_from_other_config" [self Class.vdi, ⟨"key", .text⟩] .nothing,
    plain "set_xenstore_data" [self Class.vdi, ⟨"value", .map .text .text⟩] .nothing,
    plain "add_to_xenstore_data" [self Class.vdi, ⟨"key", .text⟩, ⟨"value", .text⟩] .nothing,
    plain "remove_from_xenstore_data" [self Class.vdi, ⟨"key", .text⟩] .nothing,
    plain "set_sm_config" [self Class.vdi, ⟨"value", .map .text .text⟩] .nothing,
    plain "add_to_sm_config" [self Class.vdi, ⟨"key", .text⟩, ⟨"value", .text⟩] .nothing,
    plain "remove_from_sm_config" [self Class.vdi, ⟨"key", .text⟩] .nothing,
    plain "set_tags" [self Class.vdi, ⟨"value", .list .text⟩] .nothing,
    plain "add_tags" [self Class.vdi, ⟨"value", .text⟩] .nothing,
    plain "remove_tags" [self Class.vdi, ⟨"value", .text⟩] .nothing,
    .wired "snapshot" <| tasked "snapshot2" [⟨"vdi", .reference Class.vdi⟩] (.reference Class.vdi),
    tasked "snapshot" [⟨"vdi", .reference Class.vdi⟩,
      ⟨"driver_params", .map .text .text⟩] (.reference Class.vdi),
    .wired "clone" <| tasked "clone2" [⟨"vdi", .reference Class.vdi⟩] (.reference Class.vdi),
    tasked "clone" [⟨"vdi", .reference Class.vdi⟩,
      ⟨"driver_params", .map .text .text⟩] (.reference Class.vdi),
    tasked "resize" [⟨"vdi", .reference Class.vdi⟩, ⟨"size", .integer⟩] .nothing,
    tasked "resize_online" [⟨"vdi", .reference Class.vdi⟩, ⟨"size", .integer⟩] .nothing,
    .wired "introduce" <| tasked "introduce11" [⟨"uuid", .text⟩, ⟨"name_label", .text⟩,
      ⟨"name_description", .text⟩, ⟨"SR", .reference Class.sr⟩,
      ⟨"type", .label Enumeration.vdiType⟩, ⟨"sharable", .flag⟩, ⟨"read_only", .flag⟩,
      ⟨"other_config", .map .text .text⟩, ⟨"location", .text⟩,
      ⟨"xenstore_data", .map .text .text⟩] (.reference Class.vdi),
    .wired "introduce" <| tasked "introduce12" [⟨"uuid", .text⟩, ⟨"name_label", .text⟩,
      ⟨"name_description", .text⟩, ⟨"SR", .reference Class.sr⟩,
      ⟨"type", .label Enumeration.vdiType⟩, ⟨"sharable", .flag⟩, ⟨"read_only", .flag⟩,
      ⟨"other_config", .map .text .text⟩, ⟨"location", .text⟩,
      ⟨"xenstore_data", .map .text .text⟩, ⟨"sm_config", .map .text .text⟩] (.reference Class.vdi),
    tasked "introduce" [⟨"uuid", .text⟩, ⟨"name_label", .text⟩, ⟨"name_description", .text⟩,
      ⟨"SR", .reference Class.sr⟩, ⟨"type", .label Enumeration.vdiType⟩, ⟨"sharable", .flag⟩,
      ⟨"read_only", .flag⟩, ⟨"other_config", .map .text .text⟩, ⟨"location", .text⟩,
      ⟨"xenstore_data", .map .text .text⟩, ⟨"sm_config", .map .text .text⟩, ⟨"managed", .flag⟩,
      ⟨"virtual_size", .integer⟩, ⟨"physical_utilisation", .integer⟩,
      ⟨"metadata_of_pool", .reference Class.pool⟩, ⟨"is_a_snapshot", .flag⟩,
      ⟨"snapshot_time", .instant⟩, ⟨"snapshot_of", .reference Class.vdi⟩] (.reference Class.vdi),
    tasked "update" [⟨"vdi", .reference Class.vdi⟩] .nothing,
    .wired "copy" <| tasked "copy3" [⟨"vdi", .reference Class.vdi⟩,
      ⟨"sr", .reference Class.sr⟩] (.reference Class.vdi),
    tasked "copy" [⟨"vdi", .reference Class.vdi⟩, ⟨"sr", .reference Class.sr⟩,
      ⟨"base_vdi", .reference Class.vdi⟩,
      ⟨"into_vdi", .reference Class.vdi⟩] (.reference Class.vdi),
    tasked "forget" [⟨"vdi", .reference Class.vdi⟩] .nothing,
    plain "set_sharable" [self Class.vdi, ⟨"value", .flag⟩] .nothing,
    plain "set_read_only" [self Class.vdi, ⟨"value", .flag⟩] .nothing,
    tasked "set_name_label" [self Class.vdi, ⟨"value", .text⟩] .nothing,
    tasked "set_name_description" [self Class.vdi, ⟨"value", .text⟩] .nothing,
    tasked "set_on_boot" [self Class.vdi, ⟨"value", .label Enumeration.onBoot⟩] .nothing,
    tasked "set_allow_caching" [self Class.vdi, ⟨"value", .flag⟩] .nothing,
    tasked "open_database" [self Class.vdi] (.reference Class.session),
    tasked "read_database_pool_uuid" [self Class.vdi] .text,
    tasked "pool_migrate" [⟨"vdi", .reference Class.vdi⟩, ⟨"sr", .reference Class.sr⟩,
      ⟨"options", .map .text .text⟩] (.reference Class.vdi),
    tasked "enable_cbt" [self Class.vdi] .nothing,
    tasked "disable_cbt" [self Class.vdi] .nothing,
    tasked "data_destroy" [self Class.vdi] .nothing,
    tasked "list_changed_blocks" [⟨"vdi_from", .reference Class.vdi⟩,
      ⟨"vdi_to", .reference Class.vdi⟩] .text,
    plain "get_all" [] (.list (.reference Class.vdi)),
    plain "get_all_records" [] (.map (.reference Class.vdi) Record.vdi)]

end PoolClient.Api

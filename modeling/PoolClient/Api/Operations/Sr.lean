import PoolClient.Api.Operation
/-!
# Operations on storage repositories
-/

namespace PoolClient.Api

open PoolClient.Schema

/-- The operations of the class `SR`. -/
def srInterface : Interface where
  name := "Sr"
  wireName := "SR"
  operations := [
    plain "get_all_records" [] (.map (.reference Class.sr) Record.sr),
    plain "get_all" [] (.list (.reference Class.sr)),
    plain "forget_data_source_archives" [⟨"sr", .reference Class.sr⟩,
      ⟨"data_source", .text⟩] .nothing,
    plain "query_data_source" [⟨"sr", .reference Class.sr⟩, ⟨"data_source", .text⟩] .real,
    plain "record_data_source" [⟨"sr", .reference Class.sr⟩, ⟨"data_source", .text⟩] .nothing,
    tasked "disable_database_replication" [⟨"sr", .reference Class.sr⟩] .nothing,
    tasked "enable_database_replication" [⟨"sr", .reference Class.sr⟩] .nothing,
    tasked "assert_supports_database_replication" [⟨"sr", .reference Class.sr⟩] .nothing,
    tasked "assert_can_host_ha_statefile" [⟨"sr", .reference Class.sr⟩] .nothing,
    plain "set_physical_size" [self Class.sr, ⟨"value", .integer⟩] .nothing,
    tasked "create_new_blob" [⟨"sr", .reference Class.sr⟩, ⟨"name", .text⟩, ⟨"mime_type", .text⟩,
      ⟨"public", .flag⟩] (.reference Class.blob),
    tasked "set_name_description" [⟨"sr", .reference Class.sr⟩, ⟨"value", .text⟩] .nothing,
    tasked "set_name_label" [⟨"sr", .reference Class.sr⟩, ⟨"value", .text⟩] .nothing,
    tasked "set_shared" [⟨"sr", .reference Class.sr⟩, ⟨"value", .flag⟩] .nothing,
    tasked "scan" [⟨"sr", .reference Class.sr⟩] .nothing,
    plain "get_supported_types" [] (.list .text),
    tasked "update" [⟨"sr", .reference Class.sr⟩] .nothing,
    tasked "forget" [⟨"sr", .reference Class.sr⟩] .nothing,
    tasked "destroy" [⟨"sr", .reference Class.sr⟩] .nothing,
    tasked "make" [⟨"host", .reference Class.host⟩, ⟨"device_config", .map .text .text⟩,
      ⟨"physical_size", .integer⟩, ⟨"name_label", .text⟩, ⟨"name_description", .text⟩,
      ⟨"type", .text⟩, ⟨"content_type", .text⟩, ⟨"sm_config", .map .text .text⟩] .text,
    tasked "introduce" [⟨"uuid", .text⟩, ⟨"name_label", .text⟩, ⟨"name_description", .text⟩,
      ⟨"type", .text⟩, ⟨"content_type", .text⟩, ⟨"shared", .flag⟩,
      ⟨"sm_config", .map .text .text⟩] (.reference Class.sr),
    tasked "create" [⟨"host", .reference Class.host⟩, ⟨"device_config", .map .text .text⟩,
      ⟨"physical_size", .integer⟩, ⟨"name_label", .text⟩, ⟨"name_description", .text⟩,
      ⟨"type", .text⟩, ⟨"content_type", .text⟩, ⟨"shared", .flag⟩,
      ⟨"sm_config", .map .text .text⟩] (.reference Class.sr),
    plain "remove_from_sm_config" [self Class.sr, ⟨"key", .text⟩] .nothing,
    plain "add_to_sm_config" [self Class.sr, ⟨"key", .text⟩, ⟨"value", .text⟩] .nothing,
    plain "set_sm_config" [self Class.sr, ⟨"value", .map .text .text⟩] .nothing,
    plain "remove_tags" [self Class.sr, ⟨"value", .text⟩] .nothing,
    plain "add_tags" [self Class.sr, ⟨"value", .text⟩] .nothing,
    plain "set_tags" [self Class.sr, ⟨"value", .list .text⟩] .nothing,
    plain "remove_from_other_config" [self Class.sr, ⟨"key", .text⟩] .nothing,
    plain "add_to_other_config" [self Class.sr, ⟨"key", .text⟩, ⟨"value", .text⟩] .nothing,
    plain "set_other_config" [self Class.sr, ⟨"value", .map .text .text⟩] .nothing,
    plain "get_is_tools_sr" [self Class.sr] .flag,
    plain "get_clustered" [self Class.sr] .flag,
    plain "get_introduced_by" [self Class.sr] (.reference Class.drTask),
    plain "get_local_cache_enabled" [self Class.sr] .flag,
    plain "get_blobs" [self Class.sr] (.map .text (.reference Class.blob)),
    plain "get_sm_config" [self Class.sr] (.map .text .text),
    plain "get_tags" [self Class.sr] (.set .text),
    plain "get_other_config" [self Class.sr] (.map .text .text),
    plain "get_shared" [self Class.sr] .flag,
    plain "get_content_type" [self Class.sr] .text,
    plain "get_type" [self Class.sr] .text,
    plain "get_physical_size" [self Class.sr] .integer,
    plain "get_physical_utilisation" [self Class.sr] .integer,
    plain "get_virtual_allocation" [self Class.sr] .integer,
    .wired "get_PBDs" <| plain "get_pbds" [self Class.sr] (.list (.reference Class.pbd)),
    .wired "get_VDIs" <| plain "get_vdis" [self Class.sr] (.list (.reference Class.vdi)),
    plain "get_current_operations" [
      self Class.sr] (.map .text (.label Enumeration.storageOperations)),
    plain "get_allowed_operations" [self Class.sr] (.set (.label Enumeration.storageOperations)),
    plain "get_name_description" [self Class.sr] .text,
    plain "get_name_label" [self Class.sr] .text,
    plain "get_uuid" [self Class.sr] .text,
    plain "get_by_name_label" [⟨"label", .text⟩] (.list (.reference Class.sr)),
    plain "get_by_uuid" [⟨"uuid", .text⟩] (.reference Class.sr),
    plain "get_record" [self Class.sr] Record.sr]

end PoolClient.Api

import PoolClient.Api.Operation
/-!
# Operations on virtual networks
-/

namespace PoolClient.Api

open PoolClient.Schema

/-- The operations of the class `network`. -/
def networkInterface : Interface where
  name := "Network"
  wireName := "network"
  operations := [
    plain "get_record" [self Class.network] Record.network,
    plain "get_by_uuid" [⟨"uuid", .text⟩] (.reference Class.network),
    tasked "create" [⟨"args", Record.network⟩] (.reference Class.network),
    tasked "destroy" [self Class.network] .nothing,
    plain "get_by_name_label" [⟨"label", .text⟩] (.list (.reference Class.network)),
    plain "get_uuid" [self Class.network] .text,
    plain "get_name_label" [self Class.network] .text,
    plain "get_name_description" [self Class.network] .text,
    plain "get_allowed_operations" [
      self Class.network] (.set (.label Enumeration.networkOperations)),
    plain "get_current_operations" [
      self Class.network] (.map .text (.label Enumeration.networkOperations)),
    .wired "get_VIFs" <| plain "get_vifs" [self Class.network] (.list (.reference Class.vif)),
    .wired "get_PIFs" <| plain "get_pifs" [self Class.network] (.list (.reference Class.pif)),
    .wired "get_MTU" <| plain "get_mtu" [self Class.network] .integer,
    plain "get_other_config" [self Class.network] (.map .text .text),
    plain "get_bridge" [self Class.network] .text,
    plain "get_managed" [self Class.network] .flag,
    plain "get_blobs" [self Class.network] (.map .text (.reference Class.blob)),
    plain "get_tags" [self Class.network] (.set .text),
    plain "get_default_locking_mode" [
      self Class.network] (.label Enumeration.networkDefaultLockingMode),
    plain "get_assigned_ips" [self Class.network] (.map (.reference Class.vif) .text),
    plain "get_purpose" [self Class.network] (.set (.label Enumeration.networkPurpose)),
    plain "set_name_label" [self Class.network, ⟨"value", .text⟩] .nothing,
    plain "set_name_description" [self Class.network, ⟨"value", .text⟩] .nothing,
    .wired "set_MTU" <| plain "set_mtu" [self Class.network, ⟨"value", .integer⟩] .nothing,
    plain "set_other_config" [self Class.network, ⟨"value", .map .text .text⟩] .nothing,
    plain "add_to_other_config" [self Class.network, ⟨"key", .text⟩, ⟨"value", .text⟩] .nothing,
    plain "remove_from_other_config" [self Class.network, ⟨"key", .text⟩] .nothing,
    plain "set_tags" [self Class.network, ⟨"value", .list .text⟩] .nothing,
    plain "add_tags" [self Class.network, ⟨"value", .text⟩] .nothing,
    plain "remove_tags" [self Class.network, ⟨"value", .text⟩] .nothing,
    .wired "create_new_blob" <| tasked "create_new_blob4" [⟨"network", .reference Class.network⟩,
      ⟨"name", .text⟩, ⟨"mime_type", .text⟩] (.reference Class.blob),
    tasked "create_new_blob" [⟨"network", .reference Class.network⟩, ⟨"name", .text⟩,
      ⟨"mime_type", .text⟩, ⟨"public", .flag⟩] (.reference Class.blob),
    tasked "set_default_locking_mode" [⟨"network", .reference Class.network⟩,
      ⟨"value", .label Enumeration.networkDefaultLockingMode⟩] .nothing,
    tasked "add_purpose" [self Class.network,
      ⟨"value", .label Enumeration.networkPurpose⟩] .nothing,
    tasked "remove_purpose" [self Class.network,
      ⟨"value", .label Enumeration.networkPurpose⟩] .nothing,
    plain "get_all" [] (.list (.reference Class.network)),
    plain "get_all_records" [] (.map (.reference Class.network) Record.network)]

end PoolClient.Api

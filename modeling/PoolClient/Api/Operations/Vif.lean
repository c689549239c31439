import PoolClient.Api.Operation
/-!
# Operations on virtual network interfaces
-/

namespace PoolClient.Api

open PoolClient.Schema

/-- The operations of the class `VIF`. -/
def vifInterface : Interface where
  name := "Vif"
  wireName := "VIF"
  operations := [
    plain "get_record" [self Class.vif] Record.vif,
    plain "get_by_uuid" [⟨"uuid", .text⟩] (.reference Class.vif),
    tasked "create" [⟨"args", Record.vif⟩] (.reference Class.vif),
    tasked "destroy" [self Class.vif] .nothing,
    plain "get_uuid" [self Class.vif] .text,
    plain "get_allowed_operations" [self Class.vif] (.set (.label Enumeration.vifOperations)),
    plain "get_current_operations" [
      self Class.vif] (.map .text (.label Enumeration.vifOperations)),
    plain "get_device" [self Class.vif] .text,
    plain "get_network" [self Class.vif] (.reference Class.network),
    .wired "get_VM" <| plain "get_vm" [self Class.vif] (.reference Class.vm),
    .wired "get_MAC" <| plain "get_mac" [self Class.vif] .text,
    .wired "get_MTU" <| plain "get_mtu" [self Class.vif] .integer,
    plain "get_other_config" [self Class.vif] (.map .text .text),
    plain "get_currently_attached" [self Class.vif] .flag,
    plain "get_status_code" [self Class.vif] .integer,
    plain "get_status_detail" [self Class.vif] .text,
    plain "get_runtime_properties" [self Class.vif] (.map .text .text),
    plain "get_qos_algorithm_type" [self Class.vif] .text,
    plain "get_qos_algorithm_params" [self Class.vif] (.map .text .text),
    plain "get_qos_supported_algorithms" [self Class.vif] (.set .text),
    plain "get_metrics" [self Class.vif] (.reference Class.vifMetrics),
    .wired "get_MAC_autogenerated" <| plain "get_mac_autogenerated" [self Class.vif] .flag,
    plain "get_locking_mode" [self Class.vif] (.label Enumeration.vifLockingMode),
    plain "get_ipv4_allowed" [self Class.vif] (.set .text),
    plain "get_ipv6_allowed" [self Class.vif] (.set .text),
    plain "get_ipv4_configuration_mode" [
      self Class.vif] (.label Enumeration.vifIpv4ConfigurationMode),
    plain "get_ipv4_addresses" [self Class.vif] (.set .text),
    plain "get_ipv4_gateway" [self Class.vif] .text,
    plain "get_ipv6_configuration_mode" [
      self Class.vif] (.label Enumeration.vifIpv6ConfigurationMode),
    plain "get_ipv6_addresses" [self Class.vif] (.set .text),
    plain "get_ipv6_gateway" [self Class.vif] .text,
    plain "set_other_config" [self Class.vif, ⟨"value", .map .text .text⟩] .nothing,
    plain "add_to_other_config" [self Class.vif, ⟨"key", .text⟩, ⟨"value", .text⟩] .nothing,
    plain "remove_from_other_config" [self Class.vif, ⟨"key", .text⟩] .nothing,
    plain "set_qos_algorithm_type" [self Class.vif, ⟨"value", .text⟩] .nothing,
    plain "set_qos_algorithm_params" [self Class.vif, ⟨"value", .map .text .text⟩] .nothing,
    plain "add_to_qos_algorithm_params" [self Class.vif, ⟨"key", .text⟩,
      ⟨"value", .text⟩] .nothing,
    plain "remove_from_qos_algorithm_params" [self Class.vif, ⟨"key", .text⟩] .nothing,
    tasked "plug" [self Class.vif] .nothing,
    tasked "unplug" [self Class.vif] .nothing,
    tasked "unplug_force" [self Class.vif] .nothing,
    tasked "set_locking_mode" [self Class.vif,
      ⟨"value", .label Enumeration.vifLockingMode⟩] .nothing,
    tasked "set_ipv4_allowed" [self Class.vif, ⟨"value", .list .text⟩] .nothing,
    tasked "add_ipv4_allowed" [self Class.vif, ⟨"value", .text⟩] .nothing,
    tasked "remove_ipv4_allowed" [self Class.vif, ⟨"value", .text⟩] .nothing,
    tasked "set_ipv6_allowed" [self Class.vif, ⟨"value", .list .text⟩] .nothing,
    tasked "add_ipv6_allowed" [self Class.vif, ⟨"value", .text⟩] .nothing,
    tasked "remove_ipv6_allowed" [self Class.vif, ⟨"value", .text⟩] .nothing,
    tasked "configure_ipv4" [self Class.vif,
      ⟨"mode", .label Enumeration.vifIpv4ConfigurationMode⟩, ⟨"address", .text⟩,
      ⟨"gateway", .text⟩] .nothing,
    tasked "configure_ipv6" [self Class.vif,
      ⟨"mode", .label Enumeration.vifIpv6ConfigurationMode⟩, ⟨"address", .text⟩,
      ⟨"gateway", .text⟩] .nothing,
    plain "get_all" [] (.list (.reference Class.vif)),
    plain "get_all_records" [] (.map (.reference Class.vif) Record.vif),
    .wired "move" <| tasked "move_to" [self Class.vif,
      ⟨"network", .reference Class.network⟩] .nothing]

end PoolClient.Api

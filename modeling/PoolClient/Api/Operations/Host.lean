import PoolClient.Api.Operation
/-!
# Operations on physical hosts
-/

namespace PoolClient.Api

open PoolClient.Schema

/-- The operations of the class `host`. -/
def hostInterface : Interface where
  name := "Host"
  wireName := "host"
  operations := [
    plain "get_all_records" [] (.map (.reference Class.host) Record.host),
    plain "get_all" [] (.list (.reference Class.host)),
    plain "emergency_clear_mandatory_guidance" [] .nothing,
    tasked "apply_recommended_guidances" [self Class.host] .nothing,
    tasked "set_https_only" [self Class.host, ⟨"value", .flag⟩] .nothing,
    tasked "apply_updates" [self Class.host, ⟨"hash", .text⟩] (.list (.list .text)),
    plain "emergency_reenable_tls_verification" [] .nothing,
    plain "emergency_disable_tls_verification" [] .nothing,
    tasked "set_numa_affinity_policy" [self Class.host,
      ⟨"value", .label Enumeration.hostNumaAffinityPolicy⟩] .nothing,
    tasked "get_sched_gran" [self Class.host] (.label Enumeration.hostSchedGran),
    tasked "set_sched_gran" [self Class.host,
      ⟨"value", .label Enumeration.hostSchedGran⟩] .nothing,
    tasked "set_uefi_certificates" [⟨"host", .reference Class.host⟩, ⟨"value", .text⟩] .nothing,
    tasked "set_multipathing" [⟨"host", .reference Class.host⟩, ⟨"value", .flag⟩] .nothing,
    tasked "set_iscsi_iqn" [⟨"host", .reference Class.host⟩, ⟨"value", .text⟩] .nothing,
    tasked "set_ssl_legacy" [self Class.host, ⟨"value", .flag⟩] .nothing,
    tasked "disable_display" [⟨"host", .reference Class.host⟩] (.label Enumeration.hostDisplay),
    tasked "enable_display" [⟨"host", .reference Class.host⟩] (.label Enumeration.hostDisplay),
    tasked "declare_dead" [⟨"host", .reference Class.host⟩] .nothing,
    tasked "migrate_receive" [⟨"host", .reference Class.host⟩,
      ⟨"network", .reference Class.network⟩, ⟨"options", .map .text .text⟩] (.map .text .text),
    plain "disable_local_storage_caching" [⟨"host", .reference Class.host⟩] .nothing,
    plain "enable_local_storage_caching" [⟨"host", .reference Class.host⟩,
      ⟨"sr", .reference Class.sr⟩] .nothing,
    plain "reset_cpu_features" [⟨"host", .reference Class.host⟩] .nothing,
    plain "set_cpu_features" [⟨"host", .reference Class.host⟩, ⟨"features", .text⟩] .nothing,
    tasked "set_power_on_mode" [self Class.host, ⟨"power_on_mode", .text⟩,
      ⟨"power_on_config", .map .text .text⟩] .nothing,
    tasked "refresh_pack_info" [⟨"host", .reference Class.host⟩] .nothing,
    plain "apply_edition" [⟨"host", .reference Class.host⟩, ⟨"edition", .text⟩,
      ⟨"force", .flag⟩] .nothing,
    tasked "reset_server_certificate" [⟨"host", .reference Class.host⟩] .nothing,
    plain "emergency_reset_server_certificate" [] .nothing,
    tasked "install_server_certificate" [⟨"host", .reference Class.host⟩, ⟨"certificate", .text⟩,
      ⟨"private_key", .text⟩, ⟨"certificate_chain", .text⟩] .nothing,
    tasked "refresh_server_certificate" [⟨"host", .reference Class.host⟩] .nothing,
    tasked "get_server_certificate" [⟨"host", .reference Class.host⟩] .text,
    tasked "retrieve_wlb_evacuate_recommendations" [
      self Class.host] (.map (.reference Class.vm) (.list .text)),
    plain "disable_external_auth" [⟨"host", .reference Class.host⟩,
      ⟨"config", .map .text .text⟩] .nothing,
    plain "enable_external_auth" [⟨"host", .reference Class.host⟩, ⟨"config", .map .text .text⟩,
      ⟨"service_name", .text⟩, ⟨"auth_type", .text⟩] .nothing,
    plain "get_server_localtime" [⟨"host", .reference Class.host⟩] .instant,
    plain "get_servertime" [⟨"host", .reference Class.host⟩] .instant,
    plain "call_extension" [⟨"host", .reference Class.host⟩, ⟨"call", .text⟩] .text,
    tasked "has_extension" [⟨"host", .reference Class.host⟩, ⟨"name", .text⟩] .flag,
    tasked "call_plugin" [⟨"host", .reference Class.host⟩, ⟨"plugin", .text⟩, ⟨"fn", .text⟩,
      ⟨"args", .map .text .text⟩] .text,
    tasked "create_new_blob" [⟨"host", .reference Class.host⟩, ⟨"name", .text⟩,
      ⟨"mime_type", .text⟩, ⟨"public", .flag⟩] (.reference Class.blob),
    plain "backup_rrds" [⟨"host", .reference Class.host⟩, ⟨"delay", .real⟩] .nothing,
    plain "sync_data" [⟨"host", .reference Class.host⟩] .nothing,
    tasked "compute_memory_overhead" [⟨"host", .reference Class.host⟩] .integer,
    tasked "compute_free_memory" [⟨"host", .reference Class.host⟩] .integer,
    plain "set_hostname_live" [⟨"host", .reference Class.host⟩, ⟨"hostname", .text⟩] .nothing,
    plain "shutdown_agent" [] .nothing,
    tasked "restart_agent" [⟨"host", .reference Class.host⟩] .nothing,
    plain "get_system_status_capabilities" [⟨"host", .reference Class.host⟩] .text,
    tasked "get_management_interface" [⟨"host", .reference Class.host⟩] (.reference Class.pif),
    plain "management_disable" [] .nothing,
    plain "local_management_reconfigure" [⟨"interface", .text⟩] .nothing,
    tasked "management_reconfigure" [⟨"pif", .reference Class.pif⟩] .nothing,
    tasked "syslog_reconfigure" [⟨"host", .reference Class.host⟩] .nothing,
    tasked "evacuate" [⟨"host", .reference Class.host⟩, ⟨"network", .reference Class.network⟩,
      ⟨"evacuate_batch_size", .integer⟩] .nothing,
    .wired "get_uncooperative_resident_VMs" <| tasked "get_uncooperative_resident_vms" [
      self Class.host] (.list (.reference Class.vm)),
    tasked "get_vms_which_prevent_evacuation" [
      self Class.host] (.map (.reference Class.vm) (.list .text)),
    tasked "assert_can_evacuate" [⟨"host", .reference Class.host⟩] .nothing,
    plain "forget_data_source_archives" [⟨"host", .reference Class.host⟩,
      ⟨"data_source", .text⟩] .nothing,
    plain "query_data_source" [⟨"host", .reference Class.host⟩, ⟨"data_source", .text⟩] .real,
    plain "record_data_source" [⟨"host", .reference Class.host⟩, ⟨"data_source", .text⟩] .nothing,
    plain "emergency_ha_disable" [⟨"soft", .flag⟩] .nothing,
    tasked "power_on" [⟨"host", .reference Class.host⟩] .nothing,
    tasked "destroy" [self Class.host] .nothing,
    tasked "license_remove" [⟨"host", .reference Class.host⟩] .nothing,
    tasked "license_add" [⟨"host", .reference Class.host⟩, ⟨"contents", .text⟩] .nothing,
    tasked "license_apply" [⟨"host", .reference Class.host⟩, ⟨"contents", .text⟩] .nothing,
    plain "list_methods" [] (.list .text),
    tasked "bugreport_upload" [⟨"host", .reference Class.host⟩, ⟨"url", .text⟩,
      ⟨"options", .map .text .text⟩] .nothing,
    tasked "send_debug_keys" [⟨"host", .reference Class.host⟩, ⟨"keys", .text⟩] .nothing,
    tasked "get_log" [⟨"host", .reference Class.host⟩] .text,
    tasked "dmesg_clear" [⟨"host", .reference Class.host⟩] .text,
    tasked "dmesg" [⟨"host", .reference Class.host⟩] .text,
    tasked "reboot" [⟨"host", .reference Class.host⟩] .nothing,
    tasked "shutdown" [⟨"host", .reference Class.host⟩] .nothing,
    tasked "enable" [⟨"host", .reference Class.host⟩] .nothing,
    tasked "disable" [⟨"host", .reference Class.host⟩] .nothing,
    plain "set_display" [self Class.host, ⟨"value", .label Enumeration.hostDisplay⟩] .nothing,
    .wired "remove_from_guest_VCPUs_params" <| plain "remove_from_guest_vcpus_params" [
      self Class.host, ⟨"key", .text⟩] .nothing,
    .wired "add_to_guest_VCPUs_params" <| plain "add_to_guest_vcpus_params" [self Class.host,
      ⟨"key", .text⟩, ⟨"value", .text⟩] .nothing,
    .wired "set_guest_VCPUs_params" <| plain "set_guest_vcpus_params" [self Class.host,
      ⟨"value", .map .text .text⟩] .nothing,
    plain "remove_from_license_server" [self Class.host, ⟨"key", .text⟩] .nothing,
    plain "add_to_license_server" [self Class.host, ⟨"key", .text⟩, ⟨"value", .text⟩] .nothing,
    plain "set_license_server" [self Class.host, ⟨"value", .map .text .text⟩] .nothing,
    plain "remove_tags" [self Class.host, ⟨"value", .text⟩] .nothing,
    plain "add_tags" [self Class.host, ⟨"value", .text⟩] .nothing,
    plain "set_tags" [self Class.host, ⟨"value", .list .text⟩] .nothing,
    plain "set_address" [self Class.host, ⟨"value", .text⟩] .nothing,
    plain "set_hostname" [self Class.host, ⟨"value", .text⟩] .nothing,
    plain "set_crash_dump_sr" [self Class.host, ⟨"value", .reference Class.sr⟩] .nothing,
    plain "set_suspend_image_sr" [self Class.host, ⟨"value", .reference Class.sr⟩] .nothing,
    plain "remove_from_logging" [self Class.host, ⟨"key", .text⟩] .nothing,
    plain "add_to_logging" [self Class.host, ⟨"key", .text⟩, ⟨"value", .text⟩] .nothing,
    plain "set_logging" [self Class.host, ⟨"value", .map .text .text⟩] .nothing,
    plain "remove_from_other_config" [self Class.host, ⟨"key", .text⟩] .nothing,
    plain "add_to_other_config" [self Class.host, ⟨"key", .text⟩, ⟨"value", .text⟩] .nothing,
    plain "set_other_config" [self Class.host, ⟨"value", .map .text .text⟩] .nothing,
    plain "set_name_description" [self Class.host, ⟨"value", .text⟩] .nothing,
    plain "set_name_label" [self Class.host, ⟨"value", .text⟩] .nothing,
    plain "get_last_update_hash" [self Class.host] .text,
    plain "get_pending_guidances_full" [
      self Class.host] (.set (.label Enumeration.updateGuidances)),
    plain "get_pending_guidances_recommended" [
      self Class.host] (.list (.label Enumeration.updateGuidances)),
    plain "get_numa_affinity_policy" [self Class.host] (.label Enumeration.hostNumaAffinityPolicy),
    plain "get_latest_synced_updates_applied" [
      self Class.host] (.label Enumeration.latestSyncedUpdatesAppliedState),
    plain "get_https_only" [self Class.host] .flag,
    plain "get_last_software_update" [self Class.host] .instant,
    plain "get_tls_verification_enabled" [self Class.host] .flag,
    plain "get_pending_guidances" [self Class.host] (.set (.label Enumeration.updateGuidances)),
    plain "get_editions" [self Class.host] (.set .text),
    plain "get_certificates" [self Class.host] (.set (.reference Class.certificate)),
    plain "get_uefi_certificates" [self Class.host] .text,
    plain "get_multipathing" [self Class.host] .flag,
    plain "get_iscsi_iqn" [self Class.host] .text,
    plain "get_features" [self Class.host] (.set (.reference Class.feature)),
    plain "get_updates_requiring_reboot" [self Class.host] (.set (.reference Class.poolUpdate)),
    plain "get_control_domain" [self Class.host] (.reference Class.vm),
    plain "get_virtual_hardware_platform_versions" [self Class.host] (.set .integer),
    plain "get_display" [self Class.host] (.label Enumeration.hostDisplay),
    .wired "get_guest_VCPUs_params" <| plain "get_guest_vcpus_params" [
      self Class.host] (.map .text .text),
    plain "get_ssl_legacy" [self Class.host] .flag,
    .wired "get_PUSBs" <| plain "get_pusbs" [self Class.host] (.list (.reference Class.pusb)),
    .wired "get_PGPUs" <| plain "get_pgpus" [self Class.host] (.list (.reference Class.pgpu)),
    .wired "get_PCIs" <| plain "get_pcis" [self Class.host] (.list (.reference Class.pci)),
    plain "get_chipset_info" [self Class.host] (.map .text .text),
    plain "get_local_cache_sr" [self Class.host] (.reference Class.sr),
    plain "get_power_on_config" [self Class.host] (.map .text .text),
    plain "get_power_on_mode" [self Class.host] .text,
    plain "get_bios_strings" [self Class.host] (.map .text .text),
    plain "get_license_server" [self Class.host] (.map .text .text),
    plain "get_edition" [self Class.host] .text,
    plain "get_external_auth_configuration" [self Class.host] (.map .text .text),
    plain "get_external_auth_service_name" [self Class.host] .text,
    plain "get_external_auth_type" [self Class.host] .text,
    plain "get_tags" [self Class.host] (.set .text),
    plain "get_blobs" [self Class.host] (.map .text (.reference Class.blob)),
    plain "get_ha_network_peers" [self Class.host] (.set .text),
    plain "get_ha_statefiles" [self Class.host] (.set .text),
    plain "get_license_params" [self Class.host] (.map .text .text),
    plain "get_metrics" [self Class.host] (.reference Class.hostMetrics),
    plain "get_address" [self Class.host] .text,
    plain "get_hostname" [self Class.host] .text,
    plain "get_cpu_info" [self Class.host] (.map .text .text),
    .wired "get_host_CPUs" <| plain "get_host_cpus" [
      self Class.host] (.list (.reference Class.hostCpu)),
    .wired "get_PBDs" <| plain "get_pbds" [self Class.host] (.list (.reference Class.pbd)),
    plain "get_updates" [self Class.host] (.set (.reference Class.poolUpdate)),
    plain "get_patches" [self Class.host] (.set (.reference Class.hostPatch)),
    plain "get_crashdumps" [self Class.host] (.set (.reference Class.hostCrashdump)),
    plain "get_crash_dump_sr" [self Class.host] (.reference Class.sr),
    plain "get_suspend_image_sr" [self Class.host] (.reference Class.sr),
    .wired "get_PIFs" <| plain "get_pifs" [self Class.host] (.list (.reference Class.pif)),
    plain "get_logging" [self Class.host] (.map .text .text),
    .wired "get_resident_VMs" <| plain "get_resident_vms" [
      self Class.host] (.list (.reference Class.vm)),
    plain "get_supported_bootloaders" [self Class.host] (.set .text),
    plain "get_sched_policy" [self Class.host] .text,
    plain "get_cpu_configuration" [self Class.host] (.map .text .text),
    plain "get_capabilities" [self Class.host] (.set .text),
    plain "get_other_config" [self Class.host] (.map .text .text),
    plain "get_software_version" [self Class.host] (.map .text .text),
    plain "get_enabled" [self Class.host] .flag,
    .wired "get_API_version_vendor_implementation" <| plain "get_api_version_vendor_implementation" [
      self Class.host] (.map .text .text),
    .wired "get_API_version_vendor" <| plain "get_api_version_vendor" [self Class.host] .text,
    .wired "get_API_version_minor" <| plain "get_api_version_minor" [self Class.host] .integer,
    .wired "get_API_version_major" <| plain "get_api_version_major" [self Class.host] .integer,
    plain "get_current_operations" [
      self Class.host] (.map .text (.label Enumeration.hostAllowedOperations)),
    plain "get_allowed_operations" [
      self Class.host] (.set (.label Enumeration.hostAllowedOperations)),
    plain "get_memory_overhead" [self Class.host] .integer,
    plain "get_name_description" [self Class.host] .text,
    plain "get_name_label" [self Class.host] .text,
    plain "get_uuid" [self Class.host] .text,
    plain "get_by_name_label" [⟨"label", .text⟩] (.list (.reference Class.host)),
    plain "get_by_uuid" [⟨"uuid", .text⟩] (.reference Class.host),
    plain "get_record" [self Class.host] Record.host]

end PoolClient.Api

import PoolClient.Api.Class
import PoolClient.Api.Enumeration
import PoolClient.Schema.WireType
/-!
# Records

The record of every class that has one, with its fields in schema order, and the batch of
events that `event.from` answers with. `records` lists the records by name.
-/

namespace PoolClient.Api

open PoolClient.Schema

namespace Record

def event : WireType :=
  .record "eventRecord" [
    ("id", .integer),
    ("timestamp", .instant),
    ("class", .text),
    ("operation", .label Enumeration.eventOperation),
    ("ref", .text),
    ("obj_uuid", .text),
    ("snapshot", .wire)]

def host : WireType :=
  .record "hostRecord" [
    ("uuid", .text),
    ("name_label", .text),
    ("name_description", .text),
    ("memory_overhead", .integer),
    ("allowed_operations", .set (.label Enumeration.hostAllowedOperations)),
    ("current_operations", .map .text (.label Enumeration.hostAllowedOperations)),
    ("API_version_major", .integer),
    ("API_version_minor", .integer),
    ("API_version_vendor", .text),
    ("API_version_vendor_implementation", .map .text .text),
    ("enabled", .flag),
    ("software_version", .map .text .text),
    ("other_config", .map .text .text),
    ("capabilities", .set .text),
    ("cpu_configuration", .map .text .text),
    ("sched_policy", .text),
    ("supported_bootloaders", .set .text),
    ("resident_VMs", .set (.reference Class.vm)),
    ("logging", .map .text .text),
    ("PIFs", .set (.reference Class.pif)),
    ("suspend_image_sr", .reference Class.sr),
    ("crash_dump_sr", .reference Class.sr),
    ("crashdumps", .set (.reference Class.hostCrashdump)),
    ("patches", .set (.reference Class.hostPatch)),
    ("updates", .set (.reference Class.poolUpdate)),
    ("PBDs", .set (.reference Class.pbd)),
    ("host_CPUs", .set (.reference Class.hostCpu)),
    ("cpu_info", .map .text .text),
    ("hostname", .text),
    ("address", .text),
    ("metrics", .reference Class.hostMetrics),
    ("license_params", .map .text .text),
    ("ha_statefiles", .set .text),
    ("ha_network_peers", .set .text),
    ("blobs", .map .text (.reference Class.blob)),
    ("tags", .set .text),
    ("external_auth_type", .text),
    ("external_auth_service_name", .text),
    ("external_auth_configuration", .map .text .text),
    ("edition", .text),
    ("license_server", .map .text .text),
    ("bios_strings", .map .text .text),
    ("power_on_mode", .text),
    ("power_on_config", .map .text .text),
    ("local_cache_sr", .reference Class.sr),
    ("chipset_info", .map .text .text),
    ("PCIs", .set (.reference Class.pci)),
    ("PGPUs", .set (.reference Class.pgpu)),
    ("PUSBs", .set (.reference Class.pusb)),
    ("ssl_legacy", .flag),
    ("guest_VCPUs_params", .map .text .text),
    ("display", .label Enumeration.hostDisplay),
    ("virtual_hardware_platform_versions", .set .integer),
    ("control_domain", .reference Class.vm),
    ("updates_requiring_reboot", .set (.reference Class.poolUpdate)),
    ("features", .set (.reference Class.feature)),
    ("iscsi_iqn", .text),
    ("multipathing", .flag),
    ("uefi_certificates", .text),
    ("certificates", .set (.reference Class.certificate)),
    ("editions", .set .text),
    ("pending_guidances", .set (.label Enumeration.updateGuidances)),
    ("tls_verification_enabled", .flag),
    ("last_software_update", .instant),
    ("https_only", .flag),
    ("latest_synced_updates_applied", .label Enumeration.latestSyncedUpdatesAppliedState),
    ("numa_affinity_policy", .label Enumeration.hostNumaAffinityPolicy),
    ("pending_guidances_recommended", .set (.label Enumeration.updateGuidances)),
    ("pending_guidances_full", .set (.label Enumeration.updateGuidances)),
    ("last_update_hash", .text)]

def network : WireType :=
  .record "networkRecord" [
    ("uuid", .text),
    ("name_label", .text),
    ("name_description", .text),
    ("allowed_operations", .set (.label Enumeration.networkOperations)),
    ("current_operations", .map .text (.label Enumeration.networkOperations)),
    ("VIFs", .set (.reference Class.vif)),
    ("PIFs", .set (.reference Class.pif)),
    ("MTU", .integer),
    ("other_config", .map .text .text),
    ("bridge", .text),
    ("managed", .flag),
    ("blobs", .map .text (.reference Class.blob)),
    ("tags", .set .text),
    ("default_locking_mode", .label Enumeration.networkDefaultLockingMode),
    ("assigned_ips", .map (.reference Class.vif) .text),
    ("purpose", .set (.label Enumeration.networkPurpose))]

def pbd : WireType :=
  .record "PBDRecord" [
    ("uuid", .text),
    ("host", .reference Class.host),
    ("SR", .reference Class.sr),
    ("device_config", .map .text .text),
    ("currently_attached", .flag),
    ("other_config", .map .text .text)]

def pool : WireType :=
  .record "poolRecord" [
    ("uuid", .text),
    ("name_label", .text),
    ("name_description", .text),
    ("master", .reference Class.host),
    ("default_SR", .reference Class.sr),
    ("suspend_image_SR", .reference Class.sr),
    ("crash_dump_SR", .reference Class.sr),
    ("other_config", .map .text .text),
    ("ha_enabled", .flag),
    ("ha_configuration", .map .text .text),
    ("ha_statefiles", .set .text),
    ("ha_host_failures_to_tolerate", .integer),
    ("ha_plan_exists_for", .integer),
    ("ha_allow_overcommit", .flag),
    ("ha_overcommitted", .flag),
    ("blobs", .map .text (.reference Class.blob)),
    ("tags", .set .text),
    ("gui_config", .map .text .text),
    ("health_check_config", .map .text .text),
    ("wlb_url", .text),
    ("wlb_username", .text),
    ("wlb_enabled", .flag),
    ("wlb_verify_cert", .flag),
    ("redo_log_enabled", .flag),
    ("redo_log_vdi", .reference Class.vdi),
    ("vswitch_controller", .text),
    ("restrictions", .map .text .text),
    ("metadata_VDIs", .set (.reference Class.vdi)),
    ("ha_cluster_stack", .text),
    ("allowed_operations", .set (.label Enumeration.poolAllowedOperations)),
    ("current_operations", .map .text (.label Enumeration.poolAllowedOperations)),
    ("guest_agent_config", .map .text .text),
    ("cpu_info", .map .text .text),
    ("policy_no_vendor_device", .flag),
    ("live_patching_disabled", .flag),
    ("igmp_snooping_enabled", .flag),
    ("uefi_certificates", .text),
    ("custom_uefi_certificates", .text),
    ("is_psr_pending", .flag),
    ("tls_verification_enabled", .flag),
    ("repositories", .set (.reference Class.repository)),
    ("client_certificate_auth_enabled", .flag),
    ("client_certificate_auth_name", .text),
    ("repository_proxy_url", .text),
    ("repository_proxy_username", .text),
    ("repository_proxy_password", .reference Class.secret),
    ("migration_compression", .flag),
    ("coordinator_bias", .flag),
    ("local_auth_max_threads", .integer),
    ("ext_auth_max_threads", .integer),
    ("telemetry_uuid", .reference Class.secret),
    ("telemetry_frequency", .label Enumeration.telemetryFrequency),
    ("telemetry_next_collection", .instant),
    ("last_update_sync", .instant),
    ("update_sync_frequency", .label Enumeration.updateSyncFrequency),
    ("update_sync_day", .integer),
    ("update_sync_enabled", .flag)]

def sr : WireType :=
  .record "SRRecord" [
    ("uuid", .text),
    ("name_label", .text),
    ("name_description", .text),
    ("allowed_operations", .set (.label Enumeration.storageOperations)),
    ("current_operations", .map .text (.label Enumeration.storageOperations)),
    ("VDIs", .set (.reference Class.vdi)),
    ("PBDs", .set (.reference Class.pbd)),
    ("virtual_allocation", .integer),
    ("physical_utilisation", .integer),
    ("physical_size", .integer),
    ("type", .text),
    ("content_type", .text),
    ("shared", .flag),
    ("other_config", .map .text .text),
    ("tags", .set .text),
    ("sm_config", .map .text .text),
    ("blobs", .map .text (.reference Class.blob)),
    ("local_cache_enabled", .flag),
    ("introduced_by", .reference Class.drTask),
    ("clustered", .flag),
    ("is_tools_sr", .flag)]

def task : WireType :=
  .record "taskRecord" [
    ("uuid", .text),
    ("name_label", .text),
    ("name_description", .text),
    ("allowed_operations", .set (.label Enumeration.taskAllowedOperations)),
    ("current_operations", .map .text (.label Enumeration.taskAllowedOperations)),
    ("created", .instant),
    ("finished", .instant),
    ("status", .label Enumeration.taskStatusType),
    ("resident_on", .reference Class.host),
    ("progress", .real),
    ("type", .text),
    ("result", .text),
    ("error_info", .list .text),
    ("other_config", .map .text .text),
    ("subtask_of", .reference Class.task),
    ("subtasks", .set (.reference Class.task)),
    ("backtrace", .text)]

def vbd : WireType :=
  .record "VBDRecord" [
    ("uuid", .text),
    ("allowed_operations", .set (.label Enumeration.vbdOperations)),
    ("current_operations", .map .text (.label Enumeration.vbdOperations)),
    ("VM", .reference Class.vm),
    ("VDI", .reference Class.vdi),
    ("device", .text),
    ("userdevice", .text),
    ("bootable", .flag),
    ("mode", .label Enumeration.vbdMode),
    ("type", .label Enumeration.vbdType),
    ("unpluggable", .flag),
    ("storage_lock", .flag),
    ("empty", .flag),
    ("other_config", .map .text .text),
    ("currently_attached", .flag),
    ("status_code", .integer),
    ("status_detail", .text),
    ("runtime_properties", .map .text .text),
    ("qos_algorithm_type", .text),
    ("qos_algorithm_params", .map .text .text),
    ("qos_supported_algorithms", .set .text),
    ("metrics", .reference Class.vbdMetrics)]

def vdi : WireType :=
  .record "VDIRecord" [
    ("uuid", .text),
    ("name_label", .text),
    ("name_description", .text),
    ("allowed_operations", .set (.label Enumeration.vdiOperations)),
    ("current_operations", .map .text (.label Enumeration.vdiOperations)),
    ("SR", .reference Class.sr),
    ("VBDs", .set (.reference Class.vbd)),
    ("crash_dumps", .set (.reference Class.crashdump)),
    ("virtual_size", .integer),
    ("physical_utilisation", .integer),
    ("type", .label Enumeration.vdiType),
    ("sharable", .flag),
    ("read_only", .flag),
    ("other_config", .map .text .text),
    ("storage_lock", .flag),
    ("location", .text),
    ("managed", .flag),
    ("missing", .flag),
    ("parent", .reference Class.vdi),
    ("xenstore_data", .map .text .text),
    ("sm_config", .map .text .text),
    ("is_a_snapshot", .flag),
    ("snapshot_of", .reference Class.vdi),
    ("snapshots", .set (.reference Class.vdi)),
    ("snapshot_time", .instant),
    ("tags", .set .text),
    ("allow_caching", .flag),
    ("on_boot", .label Enumeration.onBoot),
    ("metadata_of_pool", .reference Class.pool),
    ("metadata_latest", .flag),
    ("is_tools_iso", .flag),
    ("cbt_enabled", .flag)]

def vif : WireType :=
  .record "VIFRecord" [
    ("uuid", .text),
    ("allowed_operations", .set (.label Enumeration.vifOperations)),
    ("current_operations", .map .text (.label Enumeration.vifOperations)),
    ("device", .text),
    ("network", .reference Class.network),
    ("VM", .reference Class.vm),
    ("MAC", .text),
    ("MTU", .integer),
    ("other_config", .map .text .text),
    ("currently_attached", .flag),
    ("status_code", .integer),
    ("status_detail", .text),
    ("runtime_properties", .map .text .text),
    ("qos_algorithm_type", .text),
    ("qos_algorithm_params", .map .text .text),
    ("qos_supported_algorithms", .set .text),
    ("metrics", .reference Class.vifMetrics),
    ("MAC_autogenerated", .flag),
    ("locking_mode", .label Enumeration.vifLockingMode),
    ("ipv4_allowed", .set .text),
    ("ipv6_allowed", .set .text),
    ("ipv4_configuration_mode", .label Enumeration.vifIpv4ConfigurationMode),
    ("ipv4_addresses", .set .text),
    ("ipv4_gateway", .text),
    ("ipv6_configuration_mode", .label Enumeration.vifIpv6ConfigurationMode),
    ("ipv6_addresses", .set .text),
    ("ipv6_gateway", .text)]

def vm : WireType :=
  .record "VMRecord" [
    ("uuid", .text),
    ("allowed_operations", .set (.label Enumeration.vmOperations)),
    ("current_operations", .map .text (.label Enumeration.vmOperations)),
    ("name_label", .text),
    ("name_description", .text),
    ("power_state", .label Enumeration.vmPowerState),
    ("user_version", .integer),
    ("is_a_template", .flag),
    ("is_default_template", .flag),
    ("suspend_VDI", .reference Class.vdi),
    ("resident_on", .reference Class.host),
    ("scheduled_to_be_resident_on", .reference Class.host),
    ("affinity", .reference Class.host),
    ("memory_overhead", .integer),
    ("memory_target", .integer),
    ("memory_static_max", .integer),
    ("memory_dynamic_max", .integer),
    ("memory_dynamic_min", .integer),
    ("memory_static_min", .integer),
    ("VCPUs_params", .map .text .text),
    ("VCPUs_max", .integer),
    ("VCPUs_at_startup", .integer),
    ("actions_after_softreboot", .label Enumeration.onSoftrebootBehavior),
    ("actions_after_shutdown", .label Enumeration.onNormalExit),
    ("actions_after_reboot", .label Enumeration.onNormalExit),
    ("actions_after_crash", .label Enumeration.onCrashBehaviour),
    ("consoles", .set (.reference Class.console)),
    ("VIFs", .set (.reference Class.vif)),
    ("VBDs", .set (.reference Class.vbd)),
    ("VUSBs", .set (.reference Class.vusb)),
    ("crash_dumps", .set (.reference Class.crashdump)),
    ("VTPMs", .set (.reference Class.vtpm)),
    ("PV_bootloader", .text),
    ("PV_kernel", .text),
    ("PV_ramdisk", .text),
    ("PV_args", .text),
    ("PV_bootloader_args", .text),
    ("PV_legacy_args", .text),
    ("HVM_boot_policy", .text),
    ("HVM_boot_params", .map .text .text),
    ("HVM_shadow_multiplier", .real),
    ("platform", .map .text .text),
    ("PCI_bus", .text),
    ("other_config", .map .text .text),
    ("domid", .integer),
    ("domarch", .text),
    ("last_boot_CPU_flags", .map .text .text),
    ("is_control_domain", .flag),
    ("metrics", .reference Class.vmMetrics),
    ("guest_metrics", .reference Class.vmGuestMetrics),
    ("last_booted_record", .text),
    ("recommendations", .text),
    ("xenstore_data", .map .text .text),
    ("ha_always_run", .flag),
    ("ha_restart_priority", .text),
    ("is_a_snapshot", .flag),
    ("snapshot_of", .reference Class.vm),
    ("snapshots", .set (.reference Class.vm)),
    ("snapshot_time", .instant),
    ("transportable_snapshot_id", .text),
    ("blobs", .map .text (.reference Class.blob)),
    ("tags", .set .text),
    ("blocked_operations", .map (.label Enumeration.vmOperations) .text),
    ("snapshot_info", .map .text .text),
    ("snapshot_metadata", .text),
    ("parent", .reference Class.vm),
    ("children", .set (.reference Class.vm)),
    ("bios_strings", .map .text .text),
    ("protection_policy", .reference Class.vmpp),
    ("is_snapshot_from_vmpp", .flag),
    ("snapshot_schedule", .reference Class.vmss),
    ("is_vmss_snapshot", .flag),
    ("appliance", .reference Class.vmAppliance),
    ("start_delay", .integer),
    ("shutdown_delay", .integer),
    ("order", .integer),
    ("VGPUs", .set (.reference Class.vgpu)),
    ("attached_PCIs", .set (.reference Class.pci)),
    ("suspend_SR", .reference Class.sr),
    ("version", .integer),
    ("generation_id", .text),
    ("hardware_platform_version", .integer),
    ("has_vendor_device", .flag),
    ("requires_reboot", .flag),
    ("reference_label", .text),
    ("domain_type", .label Enumeration.domainType),
    ("NVRAM", .map .text .text),
    ("pending_guidances", .set (.label Enumeration.updateGuidances)),
    ("pending_guidances_recommended", .set (.label Enumeration.updateGuidances)),
    ("pending_guidances_full", .set (.label Enumeration.updateGuidances))]

def vmAppliance : WireType :=
  .record "VM_applianceRecord" [
    ("uuid", .text),
    ("name_label", .text),
    ("name_description", .text),
    ("allowed_operations", .set (.label Enumeration.vmApplianceOperation)),
    ("current_operations", .map .text (.label Enumeration.vmApplianceOperation)),
    ("VMs", .set (.reference Class.vm))]

def session : WireType :=
  .record "sessionRecord" [
    ("uuid", .text),
    ("this_host", .reference Class.host),
    ("this_user", .reference Class.user),
    ("last_active", .instant),
    ("pool", .flag),
    ("other_config", .map .text .text),
    ("is_local_superuser", .flag),
    ("subject", .reference Class.subject),
    ("validation_time", .instant),
    ("auth_user_sid", .text),
    ("auth_user_name", .text),
    ("rbac_permissions", .set .text),
    ("tasks", .set (.reference Class.task)),
    ("parent", .reference Class.session),
    ("originator", .text),
    ("client_certificate", .flag)]

/-- A batch of events, with the token to ask for the next one. -/
def eventBatch : WireType :=
  .record "EventBatch" [
    ("token", .text),
    ("valid_ref_counts", .map .text .integer),
    ("events", .list Record.event)]

end Record

/-- The record of every class, by name. -/
def records : List (String × WireType) :=
  [("EventRecord", Record.event), ("HostRecord", Record.host), ("NetworkRecord", Record.network),
   ("PbdRecord", Record.pbd), ("PoolRecord", Record.pool), ("SrRecord", Record.sr),
   ("TaskRecord", Record.task), ("VbdRecord", Record.vbd), ("VdiRecord", Record.vdi),
   ("VifRecord", Record.vif), ("VmRecord", Record.vm), ("VmApplianceRecord", Record.vmAppliance),
   ("SessionRecord", Record.session)]

end PoolClient.Api

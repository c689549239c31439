import PoolClient.Api.Operation
/-!
# Operations on virtual machines
-/

namespace PoolClient.Api

open PoolClient.Schema

/-- The operations of the class `VM`. -/
def vmInterface : Interface where
  name := "Vm"
  wireName := "VM"
  operations := [
    plain "get_all_records" [] (.map (.reference Class.vm) Record.vm),
    plain "get_all" [] (.list (.reference Class.vm)),
    tasked "restart_device_models" [self Class.vm] .nothing,
    .wired "set_HVM_boot_policy" <| plain "set_hvm_boot_policy" [self Class.vm,
      ⟨"value", .text⟩] .nothing,
    plain "set_domain_type" [self Class.vm, ⟨"value", .label Enumeration.domainType⟩] .nothing,
    tasked "set_actions_after_crash" [self Class.vm,
      ⟨"value", .label Enumeration.onCrashBehaviour⟩] .nothing,
    tasked "import" [⟨"url", .text⟩, ⟨"sr", .reference Class.sr⟩, ⟨"full_restore", .flag⟩,
      ⟨"force", .flag⟩] (.list (.reference Class.vm)),
    tasked "set_has_vendor_device" [self Class.vm, ⟨"value", .flag⟩] .nothing,
    tasked "call_plugin" [⟨"vm", .reference Class.vm⟩, ⟨"plugin", .text⟩, ⟨"fn", .text⟩,
      ⟨"args", .map .text .text⟩] .text,
    tasked "query_services" [self Class.vm] (.map .text .text),
    tasked "set_appliance" [self Class.vm, ⟨"value", .reference Class.vmAppliance⟩] .nothing,
    tasked "import_convert" [⟨"type", .text⟩, ⟨"username", .text⟩, ⟨"password", .text⟩,
      ⟨"sr", .reference Class.sr⟩, ⟨"remote_config", .map .text .text⟩] .nothing,
    tasked "recover" [self Class.vm, ⟨"session_to", .reference Class.session⟩,
      ⟨"force", .flag⟩] .nothing,
    .wired "get_SRs_required_for_recovery" <| tasked "get_srs_required_for_recovery" [
      self Class.vm, ⟨"session_to", .reference Class.session⟩] (.list (.reference Class.sr)),
    tasked "assert_can_be_recovered" [self Class.vm,
      ⟨"session_to", .reference Class.session⟩] .nothing,
    .wired "set_suspend_VDI" <| tasked "set_suspend_vdi" [self Class.vm,
      ⟨"value", .reference Class.vdi⟩] .nothing,
    tasked "set_order" [self Class.vm, ⟨"value", .integer⟩] .nothing,
    tasked "set_shutdown_delay" [self Class.vm, ⟨"value", .integer⟩] .nothing,
    tasked "set_start_delay" [self Class.vm, ⟨"value", .integer⟩] .nothing,
    plain "set_snapshot_schedule" [self Class.vm, ⟨"value", .reference Class.vmss⟩] .nothing,
    plain "set_protection_policy" [self Class.vm, ⟨"value", .reference Class.vmpp⟩] .nothing,
    tasked "copy_bios_strings" [⟨"vm", .reference Class.vm⟩,
      ⟨"host", .reference Class.host⟩] .nothing,
    tasked "set_bios_strings" [self Class.vm, ⟨"value", .map .text .text⟩] .nothing,
    tasked "retrieve_wlb_recommendations" [
      ⟨"vm", .reference Class.vm⟩] (.map (.reference Class.host) (.list .text)),
    tasked "assert_agile" [self Class.vm] .nothing,
    tasked "create_new_blob" [⟨"vm", .reference Class.vm⟩, ⟨"name", .text⟩, ⟨"mime_type", .text⟩,
      ⟨"public", .flag⟩] (.reference Class.blob),
    tasked "assert_can_boot_here" [self Class.vm, ⟨"host", .reference Class.host⟩] .nothing,
    tasked "get_possible_hosts" [⟨"vm", .reference Class.vm⟩] (.list (.reference Class.host)),
    .wired "get_allowed_VIF_devices" <| plain "get_allowed_vif_devices" [
      ⟨"vm", .reference Class.vm⟩] (.list .text),
    .wired "get_allowed_VBD_devices" <| plain "get_allowed_vbd_devices" [
      ⟨"vm", .reference Class.vm⟩] (.list .text),
    tasked "update_allowed_operations" [self Class.vm] .nothing,
    tasked "assert_operation_valid" [self Class.vm,
      ⟨"op", .label Enumeration.vmOperations⟩] .nothing,
    plain "forget_data_source_archives" [self Class.vm, ⟨"data_source", .text⟩] .nothing,
    plain "query_data_source" [self Class.vm, ⟨"data_source", .text⟩] .real,
    plain "record_data_source" [self Class.vm, ⟨"data_source", .text⟩] .nothing,
    plain "get_boot_record" [self Class.vm] Record.vm,
    tasked "assert_can_migrate" [⟨"vm", .reference Class.vm⟩, ⟨"dest", .map .text .text⟩,
      ⟨"live", .flag⟩, ⟨"vdi_map", .map (.reference Class.vdi) (.reference Class.sr)⟩,
      ⟨"vif_map", .map (.reference Class.vif) (.reference Class.network)⟩,
      ⟨"options", .map .text .text⟩,
      ⟨"vgpu_map", .map (.reference Class.vgpu) (.reference Class.gpuGroup)⟩] .nothing,
    tasked "migrate_send" [⟨"vm", .reference Class.vm⟩, ⟨"dest", .map .text .text⟩,
      ⟨"live", .flag⟩, ⟨"vdi_map", .map (.reference Class.vdi) (.reference Class.sr)⟩,
      ⟨"vif_map", .map (.reference Class.vif) (.reference Class.network)⟩,
      ⟨"options", .map .text .text⟩,
      ⟨"vgpu_map", .map (.reference Class.vgpu) (.reference Class.gpuGroup)⟩] (.reference Class.vm),
    tasked "maximise_memory" [self Class.vm, ⟨"total", .integer⟩, ⟨"approximate", .flag⟩] .integer,
    tasked "send_trigger" [⟨"vm", .reference Class.vm⟩, ⟨"trigger", .text⟩] .nothing,
    tasked "send_sysrq" [⟨"vm", .reference Class.vm⟩, ⟨"key", .text⟩] .nothing,
    .wired "set_VCPUs_at_startup" <| plain "set_vcpus_at_startup" [self Class.vm,
      ⟨"value", .integer⟩] .nothing,
    .wired "set_VCPUs_max" <| plain "set_vcpus_max" [self Class.vm, ⟨"value", .integer⟩] .nothing,
    tasked "set_shadow_multiplier_live" [self Class.vm, ⟨"multiplier", .real⟩] .nothing,
    .wired "set_HVM_shadow_multiplier" <| plain "set_hvm_shadow_multiplier" [self Class.vm,
      ⟨"value", .real⟩] .nothing,
    tasked "get_cooperative" [self Class.vm] .flag,
    tasked "wait_memory_target_live" [self Class.vm] .nothing,
    tasked "set_memory_target_live" [self Class.vm, ⟨"target", .integer⟩] .nothing,
    tasked "set_memory" [self Class.vm, ⟨"value", .integer⟩] .nothing,
    tasked "set_memory_limits" [self Class.vm, ⟨"static_min", .integer⟩,
      ⟨"static_max", .integer⟩, ⟨"dynamic_min", .integer⟩, ⟨"dynamic_max", .integer⟩] .nothing,
    tasked "set_memory_static_range" [self Class.vm, ⟨"min", .integer⟩,
      ⟨"max", .integer⟩] .nothing,
    plain "set_memory_static_min" [self Class.vm, ⟨"value", .integer⟩] .nothing,
    plain "set_memory_static_max" [self Class.vm, ⟨"value", .integer⟩] .nothing,
    tasked "set_memory_dynamic_range" [self Class.vm, ⟨"min", .integer⟩,
      ⟨"max", .integer⟩] .nothing,
    plain "set_memory_dynamic_min" [self Class.vm, ⟨"value", .integer⟩] .nothing,
    plain "set_memory_dynamic_max" [self Class.vm, ⟨"value", .integer⟩] .nothing,
    tasked "compute_memory_overhead" [⟨"vm", .reference Class.vm⟩] .integer,
    plain "set_ha_always_run" [self Class.vm, ⟨"value", .flag⟩] .nothing,
    plain "set_ha_restart_priority" [self Class.vm, ⟨"value", .text⟩] .nothing,
    .wired "remove_from_NVRAM" <| plain "remove_from_nvram" [self Class.vm,
      ⟨"key", .text⟩] .nothing,
    .wired "add_to_NVRAM" <| plain "add_to_nvram" [self Class.vm, ⟨"key", .text⟩,
      ⟨"value", .text⟩] .nothing,
    .wired "set_NVRAM" <| plain "set_nvram" [self Class.vm, ⟨"value", .map .text .text⟩] .nothing,
    .wired "add_to_VCPUs_params_live" <| tasked "add_to_vcpus_params_live" [self Class.vm,
      ⟨"key", .text⟩, ⟨"value", .text⟩] .nothing,
    .wired "set_VCPUs_number_live" <| tasked "set_vcpus_number_live" [self Class.vm,
      ⟨"nvcpu", .integer⟩] .nothing,
    tasked "pool_migrate" [⟨"vm", .reference Class.vm⟩, ⟨"host", .reference Class.host⟩,
      ⟨"options", .map .text .text⟩] .nothing,
    tasked "resume_on" [⟨"vm", .reference Class.vm⟩, ⟨"host", .reference Class.host⟩,
      ⟨"start_paused", .flag⟩, ⟨"force", .flag⟩] .nothing,
    tasked "resume" [⟨"vm", .reference Class.vm⟩, ⟨"start_paused", .flag⟩,
      ⟨"force", .flag⟩] .nothing,
    tasked "suspend" [⟨"vm", .reference Class.vm⟩] .nothing,
    tasked "hard_reboot" [⟨"vm", .reference Class.vm⟩] .nothing,
    tasked "power_state_reset" [⟨"vm", .reference Class.vm⟩] .nothing,
    tasked "hard_shutdown" [⟨"vm", .reference Class.vm⟩] .nothing,
    tasked "clean_reboot" [⟨"vm", .reference Class.vm⟩] .nothing,
    tasked "shutdown" [⟨"vm", .reference Class.vm⟩] .nothing,
    tasked "clean_shutdown" [⟨"vm", .reference Class.vm⟩] .nothing,
    tasked "unpause" [⟨"vm", .reference Class.vm⟩] .nothing,
    tasked "pause" [⟨"vm", .reference Class.vm⟩] .nothing,
    tasked "start_on" [⟨"vm", .reference Class.vm⟩, ⟨"host", .reference Class.host⟩,
      ⟨"start_paused", .flag⟩, ⟨"force", .flag⟩] .nothing,
    tasked "start" [⟨"vm", .reference Class.vm⟩, ⟨"start_paused", .flag⟩,
      ⟨"force", .flag⟩] .nothing,
    tasked "provision" [⟨"vm", .reference Class.vm⟩] .nothing,
    tasked "checkpoint" [⟨"vm", .reference Class.vm⟩, ⟨"new_name", .text⟩] (.reference Class.vm),
    tasked "revert" [⟨"snapshot", .reference Class.vm⟩] .nothing,
    tasked "copy" [⟨"vm", .reference Class.vm⟩, ⟨"new_name", .text⟩,
      ⟨"sr", .reference Class.sr⟩] (.reference Class.vm),
    tasked "clone" [⟨"vm", .reference Class.vm⟩, ⟨"new_name", .text⟩] (.reference Class.vm),
    tasked "snapshot_with_quiesce" [⟨"vm", .reference Class.vm⟩,
      ⟨"new_name", .text⟩] (.reference Class.vm),
    tasked "snapshot" [⟨"vm", .reference Class.vm⟩, ⟨"new_name", .text⟩,
      ⟨"ignore_vdis", .list (.reference Class.vdi)⟩] (.reference Class.vm),
    .wired "snapshot" <| tasked "snapshot3" [⟨"vm", .reference Class.vm⟩,
      ⟨"new_name", .text⟩] (.reference Class.vm),
    plain "set_hardware_platform_version" [self Class.vm, ⟨"value", .integer⟩] .nothing,
    .wired "set_suspend_SR" <| plain "set_suspend_sr" [self Class.vm,
      ⟨"value", .reference Class.sr⟩] .nothing,
    plain "remove_from_blocked_operations" [self Class.vm,
      ⟨"key", .label Enumeration.vmOperations⟩] .nothing,
    plain "add_to_blocked_operations" [self Class.vm, ⟨"key", .label Enumeration.vmOperations⟩,
      ⟨"value", .text⟩] .nothing,
    plain "set_blocked_operations" [self Class.vm,
      ⟨"value", .map (.label Enumeration.vmOperations) .text⟩] .nothing,
    plain "remove_tags" [self Class.vm, ⟨"value", .text⟩] .nothing,
    plain "add_tags" [self Class.vm, ⟨"value", .text⟩] .nothing,
    plain "set_tags" [self Class.vm, ⟨"value", .list .text⟩] .nothing,
    plain "remove_from_xenstore_data" [self Class.vm, ⟨"key", .text⟩] .nothing,
    plain "add_to_xenstore_data" [self Class.vm, ⟨"key", .text⟩, ⟨"value", .text⟩] .nothing,
    plain "set_xenstore_data" [self Class.vm, ⟨"value", .map .text .text⟩] .nothing,
    plain "set_recommendations" [self Class.vm, ⟨"value", .text⟩] .nothing,
    plain "remove_from_other_config" [self Class.vm, ⟨"key", .text⟩] .nothing,
    plain "add_to_other_config" [self Class.vm, ⟨"key", .text⟩, ⟨"value", .text⟩] .nothing,
    plain "set_other_config" [self Class.vm, ⟨"value", .map .text .text⟩] .nothing,
    .wired "set_PCI_bus" <| plain "set_pci_bus" [self Class.vm, ⟨"value", .text⟩] .nothing,
    plain "remove_from_platform" [self Class.vm, ⟨"key", .text⟩] .nothing,
    plain "add_to_platform" [self Class.vm, ⟨"key", .text⟩, ⟨"value", .text⟩] .nothing,
    plain "set_platform" [self Class.vm, ⟨"value", .map .text .text⟩] .nothing,
    .wired "remove_from_HVM_boot_params" <| plain "remove_from_hvm_boot_params" [self Class.vm,
      ⟨"key", .text⟩] .nothing,
    .wired "add_to_HVM_boot_params" <| plain "add_to_hvm_boot_params" [self Class.vm,
      ⟨"key", .text⟩, ⟨"value", .text⟩] .nothing,
    .wired "set_HVM_boot_params" <| plain "set_hvm_boot_params" [self Class.vm,
      ⟨"value", .map .text .text⟩] .nothing,
    .wired "set_PV_legacy_args" <| plain "set_pv_legacy_args" [self Class.vm,
      ⟨"value", .text⟩] .nothing,
    .wired "set_PV_bootloader_args" <| plain "set_pv_bootloader_args" [self Class.vm,
      ⟨"value", .text⟩] .nothing,
    .wired "set_PV_args" <| plain "set_pv_args" [self Class.vm, ⟨"value", .text⟩] .nothing,
    .wired "set_PV_ramdisk" <| plain "set_pv_ramdisk" [self Class.vm, ⟨"value", .text⟩] .nothing,
    .wired "set_PV_kernel" <| plain "set_pv_kernel" [self Class.vm, ⟨"value", .text⟩] .nothing,
    .wired "set_PV_bootloader" <| plain "set_pv_bootloader" [self Class.vm,
      ⟨"value", .text⟩] .nothing,
    plain "set_actions_after_reboot" [self Class.vm,
      ⟨"value", .label Enumeration.onNormalExit⟩] .nothing,
    plain "set_actions_after_shutdown" [self Class.vm,
      ⟨"value", .label Enumeration.onNormalExit⟩] .nothing,
    plain "set_actions_after_softreboot" [self Class.vm,
      ⟨"value", .label Enumeration.onSoftrebootBehavior⟩] .nothing,
    .wired "remove_from_VCPUs_params" <| plain "remove_from_vcpus_params" [self Class.vm,
      ⟨"key", .text⟩] .nothing,
    .wired "add_to_VCPUs_params" <| plain "add_to_vcpus_params" [self Class.vm, ⟨"key", .text⟩,
      ⟨"value", .text⟩] .nothing,
    .wired "set_VCPUs_params" <| plain "set_vcpus_params" [self Class.vm,
      ⟨"value", .map .text .text⟩] .nothing,
    plain "set_affinity" [self Class.vm, ⟨"value", .reference Class.host⟩] .nothing,
    plain "set_is_a_template" [self Class.vm, ⟨"value", .flag⟩] .nothing,
    plain "set_user_version" [self Class.vm, ⟨"value", .integer⟩] .nothing,
    plain "set_name_description" [self Class.vm, ⟨"value", .text⟩] .nothing,
    plain "set_name_label" [self Class.vm, ⟨"value", .text⟩] .nothing,
    plain "get_pending_guidances_full" [self Class.vm] (.set (.label Enumeration.updateGuidances)),
    plain "get_pending_guidances_recommended" [
      self Class.vm] (.set (.label Enumeration.updateGuidances)),
    plain "get_pending_guidances" [self Class.vm] (.set (.label Enumeration.updateGuidances)),
    .wired "get_NVRAM" <| plain "get_nvram" [self Class.vm] (.map .text .text),
    plain "get_domain_type" [self Class.vm] (.label Enumeration.domainType),
    plain "get_reference_label" [self Class.vm] .text,
    plain "get_requires_reboot" [self Class.vm] .flag,
    plain "get_has_vendor_device" [self Class.vm] .flag,
    plain "get_hardware_platform_version" [self Class.vm] .integer,
    plain "get_generation_id" [self Class.vm] .text,
    plain "get_version" [self Class.vm] .integer,
    .wired "get_suspend_SR" <| plain "get_suspend_sr" [self Class.vm] (.reference Class.sr),
    .wired "get_attached_PCIs" <| plain "get_attached_pcis" [
      self Class.vm] (.list (.reference Class.pci)),
    .wired "get_VGPUs" <| plain "get_vgpus" [self Class.vm] (.list (.reference Class.vgpu)),
    plain "get_order" [self Class.vm] .integer,
    plain "get_shutdown_delay" [self Class.vm] .integer,
    plain "get_start_delay" [self Class.vm] .integer,
    plain "get_appliance" [self Class.vm] (.reference Class.vmAppliance),
    plain "get_is_vmss_snapshot" [self Class.vm] .flag,
    plain "get_snapshot_schedule" [self Class.vm] (.reference Class.vmss),
    plain "get_is_snapshot_from_vmpp" [self Class.vm] .flag,
    plain "get_protection_policy" [self Class.vm] (.reference Class.vmpp),
    plain "get_bios_strings" [self Class.vm] (.map .text .text),
    plain "get_children" [self Class.vm] (.set (.reference Class.vm)),
    plain "get_parent" [self Class.vm] (.reference Class.vm),
    plain "get_snapshot_metadata" [self Class.vm] .text,
    plain "get_snapshot_info" [self Class.vm] (.map .text .text),
    plain "get_blocked_operations" [self Class.vm] (.map (.label Enumeration.vmOperations) .text),
    plain "get_tags" [self Class.vm] (.set .text),
    plain "get_blobs" [self Class.vm] (.map .text (.reference Class.blob)),
    plain "get_transportable_snapshot_id" [self Class.vm] .text,
    plain "get_snapshot_time" [self Class.vm] .instant,
    plain "get_snapshots" [self Class.vm] (.set (.reference Class.vm)),
    plain "get_snapshot_of" [self Class.vm] (.reference Class.vm),
    plain "get_is_a_snapshot" [self Class.vm] .flag,
    plain "get_ha_restart_priority" [self Class.vm] .text,
    plain "get_ha_always_run" [self Class.vm] .flag,
    plain "get_xenstore_data" [self Class.vm] (.map .text .text),
    plain "get_recommendations" [self Class.vm] .text,
    plain "get_last_booted_record" [self Class.vm] .text,
    plain "get_guest_metrics" [self Class.vm] (.reference Class.vmGuestMetrics),
    plain "get_metrics" [self Class.vm] (.reference Class.vmMetrics),
    plain "get_is_control_domain" [self Class.vm] .flag,
    .wired "get_last_boot_CPU_flags" <| plain "get_last_boot_cpu_flags" [
      self Class.vm] (.map .text .text),
    plain "get_domarch" [self Class.vm] .text,
    plain "get_domid" [self Class.vm] .integer,
    plain "get_other_config" [self Class.vm] (.map .text .text),
    .wired "get_PCI_bus" <| plain "get_pci_bus" [self Class.vm] .text,
    plain "get_platform" [self Class.vm] (.map .text .text),
    .wired "get_HVM_shadow_multiplier" <| plain "get_hvm_shadow_multiplier" [self Class.vm] .real,
    .wired "get_HVM_boot_params" <| plain "get_hvm_boot_params" [self Class.vm] (.map .text .text),
    .wired "get_HVM_boot_policy" <| plain "get_hvm_boot_policy" [self Class.vm] .text,
    .wired "get_PV_legacy_args" <| plain "get_pv_legacy_args" [self Class.vm] .text,
    .wired "get_PV_bootloader_args" <| plain "get_pv_bootloader_args" [self Class.vm] .text,
    .wired "get_PV_args" <| plain "get_pv_args" [self Class.vm] .text,
    .wired "get_PV_ramdisk" <| plain "get_pv_ramdisk" [self Class.vm] .text,
    .wired "get_PV_kernel" <| plain "get_pv_kernel" [self Class.vm] .text,
    .wired "get_PV_bootloader" <| plain "get_pv_bootloader" [self Class.vm] .text,
    .wired "get_VTPMs" <| plain "get_vtpms" [self Class.vm] (.list (.reference Class.vtpm)),
    plain "get_crash_dumps" [self Class.vm] (.set (.reference Class.crashdump)),
    .wired "get_VUSBs" <| plain "get_vusbs" [self Class.vm] (.list (.reference Class.vusb)),
    .wired "get_VBDs" <| plain "get_vbds" [self Class.vm] (.list (.reference Class.vbd)),
    .wired "get_VIFs" <| plain "get_vifs" [self Class.vm] (.list (.reference Class.vif)),
    plain "get_consoles" [self Class.vm] (.set (.reference Class.console)),
    plain "get_actions_after_crash" [self Class.vm] (.label Enumeration.onCrashBehaviour),
    plain "get_actions_after_reboot" [self Class.vm] (.label Enumeration.onNormalExit),
    plain "get_actions_after_shutdown" [self Class.vm] (.label Enumeration.onNormalExit),
    plain "get_actions_after_softreboot" [self Class.vm] (.label Enumeration.onSoftrebootBehavior),
    .wired "get_VCPUs_at_startup" <| plain "get_vcpus_at_startup" [self Class.vm] .integer,
    .wired "get_VCPUs_max" <| plain "get_vcpus_max" [self Class.vm] .integer,
    .wired "get_VCPUs_params" <| plain "get_vcpus_params" [self Class.vm] (.map .text .text),
    plain "get_memory_static_min" [self Class.vm] .integer,
    plain "get_memory_dynamic_min" [self Class.vm] .integer,
    plain "get_memory_dynamic_max" [self Class.vm] .integer,
    plain "get_memory_static_max" [self Class.vm] .integer,
    plain "get_memory_target" [self Class.vm] .integer,
    plain "get_memory_overhead" [self Class.vm] .integer,
    plain "get_affinity" [self Class.vm] (.reference Class.host),
    plain "get_scheduled_to_be_resident_on" [self Class.vm] (.reference Class.host),
    plain "get_resident_on" [self Class.vm] (.reference Class.host),
    .wired "get_suspend_VDI" <| plain "get_suspend_vdi" [self Class.vm] (.reference Class.vdi),
    plain "get_is_default_template" [self Class.vm] .flag,
    plain "get_is_a_template" [self Class.vm] .flag,
    plain "get_user_version" [self Class.vm] .integer,
    plain "get_power_state" [self Class.vm] (.label Enumeration.vmPowerState),
    plain "get_name_description" [self Class.vm] .text,
    plain "get_name_label" [self Class.vm] .text,
    plain "get_current_operations" [self Class.vm] (.map .text (.label Enumeration.vmOperations)),
    plain "get_allowed_operations" [self Class.vm] (.set (.label Enumeration.vmOperations)),
    plain "get_uuid" [self Class.vm] .text,
    plain "get_by_name_label" [⟨"label", .text⟩] (.list (.reference Class.vm)),
    tasked "destroy" [self Class.vm] .nothing,
    tasked "create" [⟨"args", Record.vm⟩] (.reference Class.vm),
    plain "get_by_uuid" [⟨"uuid", .text⟩] (.reference Class.vm),
    plain "get_record" [self Class.vm] Record.vm]

end PoolClient.Api

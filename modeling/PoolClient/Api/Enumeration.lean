/-!
# Enumerations

The labels of every enumeration, in declaration order. Newer servers may know more labels than
these; such a label is kept as it is. `enumerations` lists all of them by name.
-/

namespace PoolClient.Api

namespace Enumeration

def eventOperation : List String :=
  ["add", "del", "mod"]

def hostAllowedOperations : List String :=
  ["provision", "evacuate", "shutdown", "reboot", "power_on", "vm_start", "vm_resume",
   "vm_migrate", "apply_updates", "enable"]

def hostDisplay : List String :=
  ["enabled", "disable_on_reboot", "disabled", "enable_on_reboot"]

def hostNumaAffinityPolicy : List String :=
  ["any", "best_effort", "default_policy"]

def hostSchedGran : List String :=
  ["core", "cpu", "socket"]

def latestSyncedUpdatesAppliedState : List String :=
  ["yes", "no", "unknown"]

def updateGuidances : List String :=
  ["reboot_host", "reboot_host_on_livepatch_failure", "reboot_host_on_kernel_livepatch_failure",
   "reboot_host_on_xen_livepatch_failure", "restart_toolstack", "restart_device_model",
   "restart_vm"]

def networkOperations : List String :=
  ["attaching"]

def networkDefaultLockingMode : List String :=
  ["unlocked", "disabled"]

def networkPurpose : List String :=
  ["nbd", "insecure_nbd"]

def poolAllowedOperations : List String :=
  ["ha_enable", "ha_disable", "cluster_create", "designate_new_master", "configure_repositories",
   "sync_updates", "get_updates", "apply_updates", "tls_verification_enable", "cert_refresh",
   "exchange_certificates_on_join", "exchange_ca_certificates_on_join",
   "copy_primary_host_certs", "eject"]

def telemetryFrequency : List String :=
  ["daily", "weekly", "monthly"]

def updateSyncFrequency : List String :=
  ["daily", "weekly"]

def storageOperations : List String :=
  ["scan", "destroy", "forget", "plug", "unplug", "update", "vdi_create", "vdi_introduce",
   "vdi_destroy", "vdi_resize", "vdi_clone", "vdi_snapshot", "vdi_mirror", "vdi_enable_cbt",
   "vdi_disable_cbt", "vdi_data_destroy", "vdi_list_changed_blocks", "vdi_set_on_boot",
   "pbd_create", "pbd_destroy"]

def taskAllowedOperations : List String :=
  ["cancel", "destroy"]

def taskStatusType : List String :=
  ["pending", "success", "failure", "cancelling", "cancelled"]

def vbdMode : List String :=
  ["RO", "RW"]

def vbdType : List String :=
  ["CD", "Disk", "Floppy"]

def vbdOperations : List String :=
  ["attach", "eject", "insert", "plug", "unplug", "unplug_force", "pause", "unpause"]

def vdiOperations : List String :=
  ["clone", "copy", "resize", "resize_online", "snapshot", "mirror", "destroy", "forget",
   "update", "force_unlock", "generate_config", "enable_cbt", "disable_cbt", "data_destroy",
   "list_changed_blocks", "set_on_boot", "blocked"]

def vdiType : List String :=
  ["system", "user", "ephemeral", "suspend", "crashdump", "ha_statefile", "metadata", "redo_log",
   "rrd", "pvs_cache", "cbt_metadata"]

def onBoot : List String :=
  ["reset", "persist"]

def vifOperations : List String :=
  ["attach", "plug", "unplug"]

def vifLockingMode : List String :=
  ["network_default", "locked", "unlocked", "disabled"]

def vifIpv4ConfigurationMode : List String :=
  ["None", "Static"]

def vifIpv6ConfigurationMode : List String :=
  ["None", "Static"]

def vmPowerState : List String :=
  ["Halted", "Paused", "Running", "Suspended"]

def vmOperations : List String :=
  ["snapshot", "clone", "copy", "create_template", "revert", "checkpoint",
   "snapshot_with_quiesce", "provision", "start", "start_on", "pause", "unpause",
   "clean_shutdown", "clean_reboot", "hard_shutdown", "power_state_reset", "hard_reboot",
   "suspend", "csvm", "resume", "resume_on", "pool_migrate", "migrate_send", "get_boot_record",
   "send_sysrq", "send_trigger", "query_services", "shutdown", "call_plugin",
   "changing_memory_live", "awaiting_memory_live", "changing_dynamic_range",
   "changing_static_range", "changing_memory_limits", "changing_shadow_memory",
   "changing_shadow_memory_live", "changing_VCPUs", "changing_VCPUs_live", "changing_NVRAM",
   "assert_operation_valid", "data_source_op", "update_allowed_operations", "make_into_template",
   "import", "export", "metadata_export", "reverting", "destroy", "create_vtpm"]

def onNormalExit : List String :=
  ["destroy", "restart"]

def onCrashBehaviour : List String :=
  ["destroy", "coredump_and_destroy", "restart", "coredump_and_restart", "preserve",
   "rename_restart"]

def onSoftrebootBehavior : List String :=
  ["soft_reboot", "destroy", "restart", "preserve"]

def domainType : List String :=
  ["hvm", "pv", "pv_in_pvh", "pvh", "unspecified"]

def vmApplianceOperation : List String :=
  ["start", "clean_shutdown", "hard_shutdown", "shutdown"]

end Enumeration

/-- Every enumeration, by name. -/
def enumerations : List (String × List String) :=
  [("EventOperation", Enumeration.eventOperation),
   ("HostAllowedOperations", Enumeration.hostAllowedOperations),
   ("HostDisplay", Enumeration.hostDisplay),
   ("HostNumaAffinityPolicy", Enumeration.hostNumaAffinityPolicy),
   ("HostSchedGran", Enumeration.hostSchedGran),
   ("LatestSyncedUpdatesAppliedState", Enumeration.latestSyncedUpdatesAppliedState),
   ("UpdateGuidances", Enumeration.updateGuidances),
   ("NetworkOperations", Enumeration.networkOperations),
   ("NetworkDefaultLockingMode", Enumeration.networkDefaultLockingMode),
   ("NetworkPurpose", Enumeration.networkPurpose),
   ("PoolAllowedOperations", Enumeration.poolAllowedOperations),
   ("TelemetryFrequency", Enumeration.telemetryFrequency),
   ("UpdateSyncFrequency", Enumeration.updateSyncFrequency),
   ("StorageOperations", Enumeration.storageOperations),
   ("TaskAllowedOperations", Enumeration.taskAllowedOperations),
   ("TaskStatusType", Enumeration.taskStatusType), ("VbdMode", Enumeration.vbdMode),
   ("VbdType", Enumeration.vbdType), ("VbdOperations", Enumeration.vbdOperations),
   ("VdiOperations", Enumeration.vdiOperations), ("VdiType", Enumeration.vdiType),
   ("OnBoot", Enumeration.onBoot), ("VifOperations", Enumeration.vifOperations),
   ("VifLockingMode", Enumeration.vifLockingMode),
   ("VifIpv4ConfigurationMode", Enumeration.vifIpv4ConfigurationMode),
   ("VifIpv6ConfigurationMode", Enumeration.vifIpv6ConfigurationMode),
   ("VmPowerState", Enumeration.vmPowerState), ("VmOperations", Enumeration.vmOperations),
   ("OnNormalExit", Enumeration.onNormalExit),
   ("OnCrashBehaviour", Enumeration.onCrashBehaviour),
   ("OnSoftrebootBehavior", Enumeration.onSoftrebootBehavior),
   ("DomainType", Enumeration.domainType),
   ("VmApplianceOperation", Enumeration.vmApplianceOperation)]

end PoolClient.Api

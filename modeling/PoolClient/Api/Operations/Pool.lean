import PoolClient.Api.Operation
/-!
# Operations on pools
-/

namespace PoolClient.Api

open PoolClient.Schema

/-- The operations of the class `pool`. -/
def poolInterface : Interface where
  name := "Pool"
  wireName := "pool"
  operations := [
    plain "get_all_records" [] (.map (.reference Class.pool) Record.pool),
    plain "get_all" [] (.list (.reference Class.pool)),
    plain "set_ext_auth_max_threads" [self Class.pool, ⟨"value", .integer⟩] .nothing,
    plain "set_local_auth_max_threads" [self Class.pool, ⟨"value", .integer⟩] .nothing,
    tasked "set_update_sync_enabled" [self Class.pool, ⟨"value", .flag⟩] .nothing,
    tasked "configure_update_sync" [self Class.pool,
      ⟨"update_sync_frequency", .label Enumeration.updateSyncFrequency⟩,
      ⟨"update_sync_day", .integer⟩] .nothing,
    tasked "reset_telemetry_uuid" [self Class.pool] .nothing,
    tasked "set_telemetry_next_collection" [self Class.pool, ⟨"value", .instant⟩] .nothing,
    tasked "set_https_only" [self Class.pool, ⟨"value", .flag⟩] .nothing,
    tasked "set_custom_uefi_certificates" [self Class.pool, ⟨"value", .text⟩] .nothing,
    tasked "set_uefi_certificates" [self Class.pool, ⟨"value", .text⟩] .nothing,
    tasked "disable_repository_proxy" [self Class.pool] .nothing,
    tasked "configure_repository_proxy" [self Class.pool, ⟨"url", .text⟩, ⟨"username", .text⟩,
      ⟨"password", .text⟩] .nothing,
    tasked "disable_client_certificate_auth" [self Class.pool] .nothing,
    tasked "enable_client_certificate_auth" [self Class.pool, ⟨"name", .text⟩] .nothing,
    tasked "check_update_readiness" [self Class.pool,
      ⟨"requires_reboot", .flag⟩] (.list (.list .text)),
    tasked "sync_updates" [self Class.pool, ⟨"force", .flag⟩, ⟨"token", .text⟩,
      ⟨"token_id", .text⟩] .text,
    tasked "remove_repository" [self Class.pool, ⟨"value", .reference Class.repository⟩] .nothing,
    tasked "add_repository" [self Class.pool, ⟨"value", .reference Class.repository⟩] .nothing,
    tasked "set_repositories" [self Class.pool,
      ⟨"value", .list (.reference Class.repository)⟩] .nothing,
    tasked "rotate_secret" [] .nothing,
    tasked "remove_from_guest_agent_config" [self Class.pool, ⟨"key", .text⟩] .nothing,
    tasked "add_to_guest_agent_config" [self Class.pool, ⟨"key", .text⟩,
      ⟨"value", .text⟩] .nothing,
    tasked "has_extension" [self Class.pool, ⟨"name", .text⟩] .flag,
    tasked "set_igmp_snooping_enabled" [self Class.pool, ⟨"value", .flag⟩] .nothing,
    tasked "disable_ssl_legacy" [self Class.pool] .nothing,
    tasked "enable_ssl_legacy" [self Class.pool] .nothing,
    tasked "apply_edition" [self Class.pool, ⟨"edition", .text⟩] .nothing,
    tasked "get_license_state" [self Class.pool] (.map .text .text),
    tasked "disable_local_storage_caching" [self Class.pool] .nothing,
    tasked "enable_local_storage_caching" [self Class.pool] .nothing,
    plain "test_archive_target" [self Class.pool, ⟨"config", .map .text .text⟩] .text,
    tasked "set_vswitch_controller" [⟨"address", .text⟩] .nothing,
    tasked "disable_redo_log" [] .nothing,
    tasked "enable_redo_log" [⟨"sr", .reference Class.sr⟩] .nothing,
    plain "enable_tls_verification" [] .nothing,
    tasked "certificate_sync" [] .nothing,
    tasked "crl_list" [] (.list .text),
    tasked "crl_uninstall" [⟨"name", .text⟩] .nothing,
    tasked "crl_install" [⟨"name", .text⟩, ⟨"cert", .text⟩] .nothing,
    tasked "uninstall_ca_certificate" [⟨"name", .text⟩] .nothing,
    tasked "install_ca_certificate" [⟨"name", .text⟩, ⟨"cert", .text⟩] .nothing,
    tasked "certificate_list" [] (.list .text),
    tasked "certificate_uninstall" [⟨"name", .text⟩] .nothing,
    tasked "certificate_install" [⟨"name", .text⟩, ⟨"cert", .text⟩] .nothing,
    tasked "send_test_post" [⟨"host", .text⟩, ⟨"port", .integer⟩, ⟨"body", .text⟩] .text,
    tasked "retrieve_wlb_recommendations" [] (.map (.reference Class.vm) (.list .text)),
    tasked "retrieve_wlb_configuration" [] (.map .text .text),
    tasked "send_wlb_configuration" [⟨"config", .map .text .text⟩] .nothing,
    tasked "deconfigure_wlb" [] .nothing,
    tasked "initialize_wlb" [⟨"wlb_url", .text⟩, ⟨"wlb_username", .text⟩,
      ⟨"wlb_password", .text⟩, ⟨"xenserver_username", .text⟩,
      ⟨"xenserver_password", .text⟩] .nothing,
    plain "detect_nonhomogeneous_external_auth" [⟨"pool", .reference Class.pool⟩] .nothing,
    plain "disable_external_auth" [⟨"pool", .reference Class.pool⟩,
      ⟨"config", .map .text .text⟩] .nothing,
    plain "enable_external_auth" [⟨"pool", .reference Class.pool⟩, ⟨"config", .map .text .text⟩,
      ⟨"service_name", .text⟩, ⟨"auth_type", .text⟩] .nothing,
    tasked "create_new_blob" [⟨"pool", .reference Class.pool⟩, ⟨"name", .text⟩,
      ⟨"mime_type", .text⟩, ⟨"public", .flag⟩] (.reference Class.blob),
    tasked "set_ha_host_failures_to_tolerate" [self Class.pool, ⟨"value", .integer⟩] .nothing,
    plain "ha_compute_vm_failover_plan" [⟨"failed_hosts", .list (.reference Class.host)⟩,
      ⟨"failed_vms", .list (.reference Class.vm)⟩] (.map (.reference Class.vm) (.map .text .text)),
    plain "ha_compute_hypothetical_max_host_failures_to_tolerate" [
      ⟨"configuration", .map (.reference Class.vm) .text⟩] .integer,
    plain "ha_compute_max_host_failures_to_tolerate" [] .integer,
    plain "ha_failover_plan_exists" [⟨"n", .integer⟩] .flag,
    plain "ha_prevent_restarts_for" [⟨"seconds", .integer⟩] .nothing,
    tasked "designate_new_master" [⟨"host", .reference Class.host⟩] .nothing,
    tasked "sync_database" [] .nothing,
    tasked "disable_ha" [] .nothing,
    tasked "enable_ha" [⟨"heartbeat_srs", .list (.reference Class.sr)⟩,
      ⟨"configuration", .map .text .text⟩] .nothing,
    .wired "create_VLAN_from_PIF" <| tasked "create_vlan_from_pif" [
      ⟨"pif", .reference Class.pif⟩, ⟨"network", .reference Class.network⟩,
      ⟨"VLAN", .integer⟩] (.list (.reference Class.pif)),
    tasked "management_reconfigure" [⟨"network", .reference Class.network⟩] .nothing,
    .wired "create_VLAN" <| tasked "create_vlan" [⟨"device", .text⟩,
      ⟨"network", .reference Class.network⟩, ⟨"VLAN", .integer⟩] (.list (.reference Class.pif)),
    tasked "recover_slaves" [] (.list (.reference Class.host)),
    plain "emergency_reset_master" [⟨"master_address", .text⟩] .nothing,
    plain "emergency_transition_to_master" [] .nothing,
    tasked "eject" [⟨"host", .reference Class.host⟩] .nothing,
    tasked "join_force" [⟨"master_address", .text⟩, ⟨"master_username", .text⟩,
      ⟨"master_password", .text⟩] .nothing,
    tasked "join" [⟨"master_address", .text⟩, ⟨"master_username", .text⟩,
      ⟨"master_password", .text⟩] .nothing,
    plain "set_coordinator_bias" [self Class.pool, ⟨"value", .flag⟩] .nothing,
    plain "set_migration_compression" [self Class.pool, ⟨"value", .flag⟩] .nothing,
    plain "set_is_psr_pending" [self Class.pool, ⟨"value", .flag⟩] .nothing,
    plain "set_live_patching_disabled" [self Class.pool, ⟨"value", .flag⟩] .nothing,
    plain "set_policy_no_vendor_device" [self Class.pool, ⟨"value", .flag⟩] .nothing,
    plain "set_wlb_verify_cert" [self Class.pool, ⟨"value", .flag⟩] .nothing,
    plain "set_wlb_enabled" [self Class.pool, ⟨"value", .flag⟩] .nothing,
    plain "remove_from_health_check_config" [self Class.pool, ⟨"key", .text⟩] .nothing,
    plain "add_to_health_check_config" [self Class.pool, ⟨"key", .text⟩,
      ⟨"value", .text⟩] .nothing,
    plain "set_health_check_config" [self Class.pool, ⟨"value", .map .text .text⟩] .nothing,
    plain "remove_from_gui_config" [self Class.pool, ⟨"key", .text⟩] .nothing,
    plain "add_to_gui_config" [self Class.pool, ⟨"key", .text⟩, ⟨"value", .text⟩] .nothing,
    plain "set_gui_config" [self Class.pool, ⟨"value", .map .text .text⟩] .nothing,
    plain "remove_tags" [self Class.pool, ⟨"value", .text⟩] .nothing,
    plain "add_tags" [self Class.pool, ⟨"value", .text⟩] .nothing,
    plain "set_tags" [self Class.pool, ⟨"value", .list .text⟩] .nothing,
    plain "set_ha_allow_overcommit" [self Class.pool, ⟨"value", .flag⟩] .nothing,
    plain "remove_from_other_config" [self Class.pool, ⟨"key", .text⟩] .nothing,
    plain "add_to_other_config" [self Class.pool, ⟨"key", .text⟩, ⟨"value", .text⟩] .nothing,
    plain "set_other_config" [self Class.pool, ⟨"value", .map .text .text⟩] .nothing,
    .wired "set_crash_dump_SR" <| plain "set_crash_dump_sr" [self Class.pool,
      ⟨"value", .reference Class.sr⟩] .nothing,
    .wired "set_suspend_image_SR" <| plain "set_suspend_image_sr" [self Class.pool,
      ⟨"value", .reference Class.sr⟩] .nothing,
    .wired "set_default_SR" <| plain "set_default_sr" [self Class.pool,
      ⟨"value", .reference Class.sr⟩] .nothing,
    plain "set_name_description" [self Class.pool, ⟨"value", .text⟩] .nothing,
    plain "set_name_label" [self Class.pool, ⟨"value", .text⟩] .nothing,
    plain "get_update_sync_enabled" [self Class.pool] .flag,
    plain "get_update_sync_day" [self Class.pool] .integer,
    plain "get_update_sync_frequency" [self Class.pool] (.label Enumeration.updateSyncFrequency),
    plain "get_last_update_sync" [self Class.pool] .instant,
    plain "get_telemetry_next_collection" [self Class.pool] .instant,
    plain "get_telemetry_frequency" [self Class.pool] (.label Enumeration.telemetryFrequency),
    plain "get_telemetry_uuid" [self Class.pool] (.reference Class.secret),
    plain "get_ext_auth_max_threads" [self Class.pool] .integer,
    plain "get_local_auth_max_threads" [self Class.pool] .integer,
    plain "get_coordinator_bias" [self Class.pool] .flag,
    plain "get_migration_compression" [self Class.pool] .flag,
    plain "get_repository_proxy_password" [self Class.pool] (.reference Class.secret),
    plain "get_repository_proxy_username" [self Class.pool] .text,
    plain "get_repository_proxy_url" [self Class.pool] .text,
    plain "get_client_certificate_auth_name" [self Class.pool] .text,
    plain "get_client_certificate_auth_enabled" [self Class.pool] .flag,
    plain "get_repositories" [self Class.pool] (.set (.reference Class.repository)),
    plain "get_tls_verification_enabled" [self Class.pool] .flag,
    plain "get_is_psr_pending" [self Class.pool] .flag,
    plain "get_custom_uefi_certificates" [self Class.pool] .text,
    plain "get_uefi_certificates" [self Class.pool] .text,
    plain "get_igmp_snooping_enabled" [self Class.pool] .flag,
    plain "get_live_patching_disabled" [self Class.pool] .flag,
    plain "get_policy_no_vendor_device" [self Class.pool] .flag,
    plain "get_cpu_info" [self Class.pool] (.map .text .text),
    plain "get_guest_agent_config" [self Class.pool] (.map .text .text),
    plain "get_current_operations" [
      self Class.pool] (.map .text (.label Enumeration.poolAllowedOperations)),
    plain "get_allowed_operations" [
      self Class.pool] (.set (.label Enumeration.poolAllowedOperations)),
    plain "get_ha_cluster_stack" [self Class.pool] .text,
    .wired "get_metadata_VDIs" <| plain "get_metadata_vdis" [
      self Class.pool] (.list (.reference Class.vdi)),
    plain "get_restrictions" [self Class.pool] (.map .text .text),
    plain "get_vswitch_controller" [self Class.pool] .text,
    plain "get_redo_log_vdi" [self Class.pool] (.reference Class.vdi),
    plain "get_redo_log_enabled" [self Class.pool] .flag,
    plain "get_wlb_verify_cert" [self Class.pool] .flag,
    plain "get_wlb_enabled" [self Class.pool] .flag,
    plain "get_wlb_username" [self Class.pool] .text,
    plain "get_wlb_url" [self Class.pool] .text,
    plain "get_health_check_config" [self Class.pool] (.map .text .text),
    plain "get_gui_config" [self Class.pool] (.map .text .text),
    plain "get_tags" [self Class.pool] (.set .text),
    plain "get_blobs" [self Class.pool] (.map .text (.reference Class.blob)),
    plain "get_ha_overcommitted" [self Class.pool] .flag,
    plain "get_ha_allow_overcommit" [self Class.pool] .flag,
    plain "get_ha_plan_exists_for" [self Class.pool] .integer,
    plain "get_ha_host_failures_to_tolerate" [self Class.pool] .integer,
    plain "get_ha_statefiles" [self Class.pool] (.set .text),
    plain "get_ha_configuration" [self Class.pool] (.map .text .text),
    plain "get_ha_enabled" [self Class.pool] .flag,
    plain "get_other_config" [self Class.pool] (.map .text .text),
    .wired "get_crash_dump_SR" <| plain "get_crash_dump_sr" [
      self Class.pool] (.reference Class.sr),
    .wired "get_suspend_image_SR" <| plain "get_suspend_image_sr" [
      self Class.pool] (.reference Class.sr),
    .wired "get_default_SR" <| plain "get_default_sr" [self Class.pool] (.reference Class.sr),
    plain "get_master" [self Class.pool] (.reference Class.host),
    plain "get_name_description" [self Class.pool] .text,
    plain "get_name_label" [self Class.pool] .text,
    plain "get_uuid" [self Class.pool] .text,
    plain "get_by_uuid" [⟨"uuid", .text⟩] (.reference Class.pool),
    plain "get_record" [self Class.pool] Record.pool]

end PoolClient.Api

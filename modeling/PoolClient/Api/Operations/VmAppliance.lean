import PoolClient.Api.Operation
/-!
# Operations on groups of virtual machines
-/

namespace PoolClient.Api

open PoolClient.Schema

/-- The operations of the class `VM_appliance`. -/
def vmApplianceInterface : Interface where
  name := "VmAppliance"
  wireName := "VM_appliance"
  operations := [
    plain "get_record" [self Class.vmAppliance] Record.vmAppliance,
    plain "get_by_uuid" [⟨"uuid", .text⟩] (.reference Class.vmAppliance),
    tasked "create" [⟨"args", Record.vmAppliance⟩] (.reference Class.vmAppliance),
    tasked "destroy" [self Class.vmAppliance] .nothing,
    plain "get_by_name_label" [⟨"label", .text⟩] (.list (.reference Class.vmAppliance)),
    plain "get_uuid" [self Class.vmAppliance] .text,
    plain "get_name_label" [self Class.vmAppliance] .text,
    plain "get_name_description" [self Class.vmAppliance] .text,
    plain "get_allowed_operations" [
      self Class.vmAppliance] (.list (.label Enumeration.vmApplianceOperation)),
    plain "get_current_operations" [
      self Class.vmAppliance] (.map .text (.label Enumeration.vmApplianceOperation)),
    .wired "get_VMs" <| plain "get_vms" [self Class.vmAppliance] (.list (.reference Class.vm)),
    plain "set_name_label" [self Class.vmAppliance, ⟨"value", .text⟩] .nothing,
    plain "set_name_description" [self Class.vmAppliance, ⟨"value", .text⟩] .nothing,
    tasked "start" [self Class.vmAppliance, ⟨"paused", .flag⟩] .nothing,
    tasked "clean_shutdown" [self Class.vmAppliance] .nothing,
    tasked "hard_shutdown" [self Class.vmAppliance] .nothing,
    tasked "shutdown" [self Class.vmAppliance] .nothing,
    tasked "assert_can_be_recovered" [self Class.vmAppliance,
      ⟨"session_to", .reference Class.session⟩] .nothing,
    .wired "get_SRs_required_for_recovery" <| tasked "get_srs_required_for_recovery" [
      self Class.vmAppliance,
      ⟨"session_to", .reference Class.session⟩] (.list (.reference Class.sr)),
    tasked "recover" [self Class.vmAppliance, ⟨"session_to", .reference Class.session⟩,
      ⟨"force", .flag⟩] .nothing,
    plain "get_all" [] (.list (.reference Class.vmAppliance)),
    plain "get_all_records" [] (.map (.reference Class.vmAppliance) Record.vmAppliance)]

end PoolClient.Api

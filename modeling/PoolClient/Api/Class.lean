/-!
# Managed classes

The classes of managed objects by their name in messages. `references` lists the reference type
of each class: its name, and the class it points into.
-/

namespace PoolClient.Api

namespace Class

abbrev session : String := "session"
abbrev task : String := "task"
abbrev vm : String := "VM"
abbrev host : String := "host"
abbrev pool : String := "pool"
abbrev sr : String := "SR"
abbrev vdi : String := "VDI"
abbrev vbd : String := "VBD"
abbrev vif : String := "VIF"
abbrev network : String := "network"
abbrev pbd : String := "PBD"
abbrev pif : String := "PIF"
abbrev vmAppliance : String := "VM_appliance"
abbrev console : String := "console"
abbrev vmMetrics : String := "VM_metrics"
abbrev vmGuestMetrics : String := "VM_guest_metrics"
abbrev vmpp : String := "VMPP"
abbrev vmss : String := "VMSS"
abbrev crashdump : String := "crashdump"
abbrev vtpm : String := "VTPM"
abbrev vusb : String := "VUSB"
abbrev vgpu : String := "VGPU"
abbrev pci : String := "PCI"
abbrev pgpu : String := "PGPU"
abbrev pusb : String := "PUSB"
abbrev blob : String := "blob"
abbrev message : String := "message"
abbrev secret : String := "secret"
abbrev user : String := "user"
abbrev subject : String := "subject"
abbrev role : String := "role"
abbrev hostMetrics : String := "host_metrics"
abbrev hostCpu : String := "host_cpu"
abbrev hostPatch : String := "host_patch"
abbrev hostCrashdump : String := "host_crashdump"
abbrev poolUpdate : String := "pool_update"
abbrev feature : String := "Feature"
abbrev certificate : String := "Certificate"
abbrev repository : String := "Repository"
abbrev drTask : String := "DR_task"
abbrev vbdMetrics : String := "VBD_metrics"
abbrev vifMetrics : String := "VIF_metrics"
abbrev sm : String := "SM"
abbrev gpuGroup : String := "GPU_group"
abbrev vgpuType : String := "VGPU_type"
abbrev vlan : String := "VLAN"
abbrev tunnel : String := "tunnel"
abbrev bond : String := "Bond"
abbrev networkSriov : String := "network_sriov"
abbrev clusterHost : String := "Cluster_host"

end Class

/-- Every reference type, with the class it points into. -/
def references : List (String × String) :=
  [("SessionRef", Class.session), ("TaskRef", Class.task), ("VmRef", Class.vm),
   ("HostRef", Class.host), ("PoolRef", Class.pool), ("SrRef", Class.sr), ("VdiRef", Class.vdi),
   ("VbdRef", Class.vbd), ("VifRef", Class.vif), ("NetworkRef", Class.network),
   ("PbdRef", Class.pbd), ("PifRef", Class.pif), ("VmApplianceRef", Class.vmAppliance),
   ("ConsoleRef", Class.console), ("VmMetricsRef", Class.vmMetrics),
   ("VmGuestMetricsRef", Class.vmGuestMetrics), ("VmppRef", Class.vmpp), ("VmssRef", Class.vmss),
   ("CrashdumpRef", Class.crashdump), ("VtpmRef", Class.vtpm), ("VusbRef", Class.vusb),
   ("VgpuRef", Class.vgpu), ("PciRef", Class.pci), ("PgpuRef", Class.pgpu),
   ("PusbRef", Class.pusb), ("BlobRef", Class.blob), ("MessageRef", Class.message),
   ("SecretRef", Class.secret), ("UserRef", Class.user), ("SubjectRef", Class.subject),
   ("RoleRef", Class.role), ("HostMetricsRef", Class.hostMetrics), ("HostCpuRef", Class.hostCpu),
   ("HostPatchRef", Class.hostPatch), ("HostCrashdumpRef", Class.hostCrashdump),
   ("PoolUpdateRef", Class.poolUpdate), ("FeatureRef", Class.feature),
   ("CertificateRef", Class.certificate), ("RepositoryRef", Class.repository),
   ("DrTaskRef", Class.drTask), ("VbdMetricsRef", Class.vbdMetrics),
   ("VifMetricsRef", Class.vifMetrics), ("SmRef", Class.sm), ("GpuGroupRef", Class.gpuGroup),
   ("VgpuTypeRef", Class.vgpuType), ("VlanRef", Class.vlan), ("TunnelRef", Class.tunnel),
   ("BondRef", Class.bond), ("NetworkSriovRef", Class.networkSriov),
   ("ClusterHostRef", Class.clusterHost)]

end PoolClient.Api

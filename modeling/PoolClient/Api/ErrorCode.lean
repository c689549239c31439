/-!
# Error codes

The codes of server errors that callers branch on, in the order of `errorCodes`. The server
knows many more; they are passed on as they are.
-/

namespace PoolClient.Api

/-- The code of a host that is not the master of its pool. Its first parameter names the
master. -/
def hostIsSlave : String :=
  "HOST_IS_SLAVE"

/-- The code of a session that the server does not know. -/
def sessionInvalid : String :=
  "SESSION_INVALID"

/-- The code for failures without a code of their own. -/
def internalError : String :=
  "INTERNAL_ERROR"

/-- The code of a method that the server does not know. -/
def methodUnknown : String :=
  "MESSAGE_METHOD_UNKNOWN"

/-- Codes by subject: sessions, requests, objects, and so on. -/
def errorCodes : List String :=
  ["SESSION_AUTHENTICATION_FAILED", "SESSION_INVALID", "SESSION_NOT_REGISTERED", "EVENTS_LOST",
   "EVENT_FROM_TOKEN_PARSE_FAILURE", "HOST_IS_SLAVE", "HOST_STILL_BOOTING", "PERMISSION_DENIED",
   "RBAC_PERMISSION_DENIED", "CHANGE_PASSWORD_REJECTED", "INTERNAL_ERROR",
   "MESSAGE_METHOD_UNKNOWN", "MESSAGE_PARAMETER_COUNT_MISMATCH", "MESSAGE_DEPRECATED",
   "MESSAGE_REMOVED", "HANDLE_INVALID", "UUID_INVALID", "FIELD_TYPE_ERROR", "INVALID_VALUE",
   "VALUE_NOT_SUPPORTED", "MAP_DUPLICATE_KEY", "OPERATION_NOT_ALLOWED", "OPERATION_BLOCKED",
   "OPERATION_PARTIALLY_FAILED", "OTHER_OPERATION_IN_PROGRESS", "LICENCE_RESTRICTION",
   "TASK_CANCELLED", "HOST_NOT_LIVE", "HOST_OFFLINE", "HOST_IN_USE",
   "HOST_NOT_ENOUGH_FREE_MEMORY", "CANNOT_EVACUATE_HOST",
   "POOL_JOINING_HOST_MUST_HAVE_SAME_API_VERSION", "VM_BAD_POWER_STATE", "VM_IS_TEMPLATE",
   "VM_REQUIRES_SR", "VM_REQUIRES_VDI", "VM_REQUIRES_NETWORK", "VM_MISSING_PV_DRIVERS",
   "VM_NOT_RESIDENT_HERE", "VM_MIGRATE_FAILED", "VM_NO_SUSPEND_SR", "VM_HAS_TOO_MANY_SNAPSHOTS",
   "VM_CANNOT_DELETE_DEFAULT_TEMPLATE", "SR_FULL", "SR_NOT_EMPTY", "SR_HAS_PBD",
   "SR_ATTACH_FAILED", "SR_BACKEND_FAILURE", "SR_OPERATION_NOT_SUPPORTED", "PBD_EXISTS",
   "VDI_IN_USE", "VDI_READONLY", "VDI_MISSING", "VDI_TOO_SMALL", "VBD_NOT_EMPTY", "VBD_IS_EMPTY",
   "VBD_NOT_UNPLUGGABLE", "VIF_IN_USE", "CANNOT_PLUG_VIF", "NETWORK_CONTAINS_VIF",
   "NETWORK_CONTAINS_PIF"]

end PoolClient.Api

import PoolClient.Api.Operation
/-!
# Operations on sessions
-/

namespace PoolClient.Api

open PoolClient.Schema

/-- The operations of the class `session`. -/
def sessionInterface : Interface where
  name := "Session"
  wireName := "session"
  operations := [
    tasked "get_all_subject_identifiers" [] (.list .text),
    tasked "logout_subject_identifier" [⟨"subject_identifier", .text⟩] .nothing,
    plain "get_record" [self Class.session] Record.session,
    plain "get_uuid" [self Class.session] .text,
    plain "get_this_host" [self Class.session] (.reference Class.host),
    plain "get_this_user" [self Class.session] (.reference Class.user),
    plain "get_last_active" [self Class.session] .instant,
    plain "get_pool" [self Class.session] .flag,
    plain "get_other_config" [self Class.session] (.map .text .text),
    plain "get_is_local_superuser" [self Class.session] .flag,
    plain "get_subject" [self Class.session] (.reference Class.subject),
    plain "get_validation_time" [self Class.session] .instant,
    plain "get_auth_user_sid" [self Class.session] .text,
    plain "get_auth_user_name" [self Class.session] .text,
    plain "get_rbac_permissions" [self Class.session] (.set .text),
    plain "get_tasks" [self Class.session] (.set (.reference Class.task)),
    plain "get_parent" [self Class.session] (.reference Class.session),
    plain "get_originator" [self Class.session] .text,
    plain "get_client_certificate" [self Class.session] .flag,
    plain "get_by_uuid" [⟨"uuid", .text⟩] (.reference Class.session),
    plain "set_other_config" [self Class.session, ⟨"value", .map .text .text⟩] .nothing,
    plain "add_to_other_config" [self Class.session, ⟨"key", .text⟩, ⟨"value", .text⟩] .nothing,
    plain "remove_from_other_config" [self Class.session, ⟨"key", .text⟩] .nothing]

end PoolClient.Api

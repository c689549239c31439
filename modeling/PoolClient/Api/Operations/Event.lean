import PoolClient.Api.Operation
/-!
# Operations on change notifications
-/

namespace PoolClient.Api

open PoolClient.Schema

/-- The operations of the class `event`. -/
def eventInterface : Interface where
  name := "Event"
  wireName := "event"
  operations := [
    tasked "register" [⟨"classes", .list .text⟩] .nothing,
    tasked "unregister" [⟨"classes", .list .text⟩] .nothing,
    plain "next" [] (.list Record.event),
    plain "from" [⟨"classes", .list .text⟩, ⟨"token", .text⟩,
      ⟨"timeout", .real⟩] Record.eventBatch,
    plain "get_current_id" [] .integer,
    plain "inject" [⟨"class", .text⟩, ⟨"ref", .text⟩] .text]

end PoolClient.Api

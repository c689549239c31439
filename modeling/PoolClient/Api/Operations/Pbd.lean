import PoolClient.Api.Operation
/-!
# Operations on the devices through which hosts reach storage
-/

namespace PoolClient.Api

open PoolClient.Schema

/-- The operations of the class `PBD`. -/
def pbdInterface : Interface where
  name := "Pbd"
  wireName := "PBD"
  operations := [
    plain "get_record" [self Class.pbd] Record.pbd,
    plain "get_by_uuid" [⟨"uuid", .text⟩] (.reference Class.pbd),
    tasked "create" [⟨"args", Record.pbd⟩] (.reference Class.pbd),
    tasked "destroy" [self Class.pbd] .nothing,
    plain "get_uuid" [self Class.pbd] .text,
    plain "get_host" [self Class.pbd] (.reference Class.host),
    .wired "get_SR" <| plain "get_sr" [self Class.pbd] (.reference Class.sr),
    plain "get_device_config" [self Class.pbd] (.map .text .text),
    plain "get_currently_attached" [self Class.pbd] .flag,
    plain "get_other_config" [self Class.pbd] (.map .text .text),
    plain "set_other_config" [self Class.pbd, ⟨"value", .map .text .text⟩] .nothing,
    plain "add_to_other_config" [self Class.pbd, ⟨"key", .text⟩, ⟨"value", .text⟩] .nothing,
    plain "remove_from_other_config" [self Class.pbd, ⟨"key", .text⟩] .nothing,
    tasked "plug" [self Class.pbd] .nothing,
    tasked "unplug" [self Class.pbd] .nothing,
    tasked "set_device_config" [self Class.pbd, ⟨"value", .map .text .text⟩] .nothing,
    plain "get_all" [] (.list (.reference Class.pbd)),
    plain "get_all_records" [] (.map (.reference Class.pbd) Record.pbd)]

end PoolClient.Api

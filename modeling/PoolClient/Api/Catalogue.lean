import PoolClient.Api.Operations.Event
import PoolClient.Api.Operations.Host
import PoolClient.Api.Operations.Network
import PoolClient.Api.Operations.Pbd
import PoolClient.Api.Operations.Pool
import PoolClient.Api.Operations.Sr
import PoolClient.Api.Operations.Task
import PoolClient.Api.Operations.Vbd
import PoolClient.Api.Operations.Vdi
import PoolClient.Api.Operations.Vif
import PoolClient.Api.Operations.Vm
import PoolClient.Api.Operations.VmAppliance
import PoolClient.Api.Operations.Session
/-!
# The catalogue

All interfaces, and the look-up of types and operations by name. An operation is looked up as
`Class::name`, its twin as `Class::async_name`.
-/

namespace PoolClient.Api

open PoolClient.Schema

/-- Every class with operations. -/
def interfaces : List Interface :=
  [eventInterface, hostInterface, networkInterface, pbdInterface, poolInterface, srInterface,
   taskInterface, vbdInterface, vdiInterface, vifInterface, vmInterface, vmApplianceInterface,
   sessionInterface]

/-- The type with the given name: a reference, an enumeration, a record or a batch of events. -/
def namedType? (name : String) : Option WireType :=
  match references.lookup name with
  | some className => some (.reference className)
  | none =>
    match enumerations.lookup name with
    | some labels => some (.label labels)
    | none => if name = "EventBatch" then some Record.eventBatch else records.lookup name

/-- The name of a type of keys. -/
def keyType? : WireType → Option KeyType
  | .text => some .text
  | .integer => some .integer
  | .reference className => some (.reference className)
  | .label labels => some (.label labels)
  | _ => none

/-- The class of a reference type, or of an interface. -/
def className? (name : String) : Option String :=
  match references.lookup name with
  | some className => some className
  | none => (interfaces.find? (·.name == name)).map (·.wireName)

/-- The call of an operation, or of its twin. -/
def Interface.signature? (i : Interface) (name : String) : Option Signature :=
  match i.operations.find? (·.name == name) with
  | some op => some (op.direct i.wireName)
  | none =>
    match i.operations.find? fun op => op.hasTwin && "async_" ++ op.name == name with
    | some op => some (op.twin i.wireName)
    | none => none

/-- The call with the given name. -/
def signature? (name : String) : Option Signature :=
  match name.splitOn "::" with
  | [className, op] =>
    match interfaces.find? (·.name == className) with
    | some i => i.signature? op
    | none => none
  | _ => none

end PoolClient.Api

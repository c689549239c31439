import PoolClient.Api.Record
/-!
# Operations

An `Operation` of a class has a name in this library and one in messages, parameters with their
names and types, and the type of its result. One that can run as a task on the server also has
a twin, which starts the task and answers with its reference; `Operation.twin` describes it.
-/

namespace PoolClient.Api

open PoolClient.Schema

/-- A parameter, by its name in messages. -/
structure Parameter where
  name : String
  type : WireType
  deriving Repr

/-- An operation of a class. -/
structure Operation where
  name : String
  wireName : String
  parameters : List Parameter
  result : WireType
  hasTwin : Bool
  deriving Repr

/-- A class with its operations. -/
structure Interface where
  name : String
  wireName : String
  operations : List Operation
  deriving Repr

/-- The object that an operation works on. -/
def self (className : String) : Parameter :=
  ⟨"self", .reference className⟩

/-- An operation that is called and answers. -/
def plain (name : String) (parameters : List Parameter) (result : WireType) : Operation :=
  ⟨name, name, parameters, result, false⟩

/-- An operation that can also run as a task. -/
def tasked (name : String) (parameters : List Parameter) (result : WireType) : Operation :=
  ⟨name, name, parameters, result, true⟩

/-- The operation under another name in messages. -/
def Operation.wired (wireName : String) (op : Operation) : Operation :=
  { op with wireName }

/-- A call that an operation can make: the method, the parameters, and the type of the result. -/
structure Signature where
  method : String
  parameters : List Parameter
  result : WireType
  deriving Repr

/-- The call of an operation of a class. -/
def Operation.direct (op : Operation) (className : String) : Signature :=
  ⟨className ++ "." ++ op.wireName, op.parameters, op.result⟩

/-- The call that starts an operation as a task. -/
def Operation.twin (op : Operation) (className : String) : Signature :=
  ⟨"Async." ++ className ++ "." ++ op.wireName, op.parameters, .reference Class.task⟩

/-- The label of an argument in error messages. -/
def Signature.argumentLabel (s : Signature) (p : Parameter) : String :=
  s.method ++ "(" ++ p.name ++ ")"

/-- The label of the result in error messages. -/
def Signature.resultLabel (s : Signature) : String :=
  s.method ++ " -> "

end PoolClient.Api

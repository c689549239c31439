import PoolClient.Message.Reading
/-!
# Writing messages

`encodeValue`, `encodeCall` and `encodeResponse` give the one written form of a value, a call
and a response, without layout. Numbers and base64 need no escaping, all other text is escaped.
-/

namespace PoolClient

open Markup

mutual

/-- The `<value>` element of a value. -/
def writeValue : Value → List Char
  | .string s => tagged "value" (tagged "string" (escape s.toList))
  | .int n => tagged "value" (tagged "i8" (Number.int64Text n).toList)
  | .double x => tagged "value" (tagged "double" (Number.doubleText x).toList)
  | .boolean b => tagged "value" (tagged "boolean" [if b then '1' else '0'])
  | .dateTime s => tagged "value" (tagged "dateTime.iso8601" (escape s.toList))
  | .base64 bytes => tagged "value" (tagged "base64" (Text.Base64.encode bytes))
  | .array items => tagged "value" (tagged "array" (tagged "data" (writeItems items)))
  | .struct members => tagged "value" (tagged "struct" (writeMembers members))
  | .nil => tagged "value" "<nil/>".toList

/-- The elements of an array, one after another. -/
def writeItems : List Value → List Char
  | [] => []
  | v :: rest => writeValue v ++ writeItems rest

/-- The members of a structure, one after another. -/
def writeMembers : List (String × Value) → List Char
  | [] => []
  | (n, v) :: rest =>
    tagged "member" (tagged "name" (escape n.toList) ++ writeValue v) ++ writeMembers rest

end

/-- The declaration and line break in front of a document. -/
def preamble : List Char :=
  "<?xml version=\"1.0\"?>\n".toList

/-- The parameters of a call or response. -/
def writeParams (params : List Value) : List Char :=
  tagged "params" (params.flatMap fun v => tagged "param" (writeValue v))

/-- The text of a value on its own. -/
def encodeValue (v : Value) : String :=
  String.ofList (writeValue v)

/-- The document of a call. -/
def encodeCall (method : String) (params : List Value) : String :=
  String.ofList (preamble ++
    tagged "methodCall" (tagged "methodName" (escape method.toList) ++ writeParams params))

/-- The document of a response. -/
def encodeResponse (response : Response) : String :=
  String.ofList (preamble ++ tagged "methodResponse" (match response with
    | .success v => writeParams [v]
    | .fault v => tagged "fault" (writeValue v)))

end PoolClient

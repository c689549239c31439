import PoolClient.Number.Numeral
/-!
# Versions of the interface

`ApiVersion` lists the released versions, oldest first, with `unknown` for a server that is
newer than all of them. `releases` gives each its numbers and the name of its release.
-/

namespace PoolClient

/-- A released version of the interface. -/
inductive ApiVersion where
  | v1_1 | v1_2 | v1_3 | v1_4 | v1_5 | v1_6 | v1_7 | v1_8 | v1_9 | v1_10
  | v2_0 | v2_1 | v2_2 | v2_3 | v2_4 | v2_5 | v2_6 | v2_7 | v2_8 | v2_9 | v2_10
  | v2_11 | v2_12 | v2_13 | v2_14 | v2_15 | v2_20 | v2_21
  | unknown
  deriving DecidableEq, Repr, Inhabited

/-- A version with its numbers and the name of the release that brought it, if it has one. -/
structure Release where
  version : ApiVersion
  major : Nat
  minor : Nat
  name : Option String
  deriving DecidableEq, Repr

/-- Every release, oldest first. -/
def releases : List Release :=
  [⟨.v1_1, 1, 1, some "rio"⟩, ⟨.v1_2, 1, 2, some "miami"⟩, ⟨.v1_3, 1, 3, some "orlando"⟩,
   ⟨.v1_4, 1, 4, none⟩, ⟨.v1_5, 1, 5, some "orlando-update-3"⟩, ⟨.v1_6, 1, 6, some "george"⟩,
   ⟨.v1_7, 1, 7, some "midnight-ride"⟩, ⟨.v1_8, 1, 8, some "cowley"⟩,
   ⟨.v1_9, 1, 9, some "boston"⟩, ⟨.v1_10, 1, 10, some "tampa"⟩,
   ⟨.v2_0, 2, 0, some "clearwater"⟩, ⟨.v2_1, 2, 1, some "vgpu-productisation"⟩,
   ⟨.v2_2, 2, 2, some "clearwater-felton"⟩, ⟨.v2_3, 2, 3, some "creedence"⟩,
   ⟨.v2_4, 2, 4, some "cream"⟩, ⟨.v2_5, 2, 5, some "dundee"⟩, ⟨.v2_6, 2, 6, some "ely"⟩,
   ⟨.v2_7, 2, 7, some "falcon"⟩, ⟨.v2_8, 2, 8, some "inverness"⟩, ⟨.v2_9, 2, 9, some "jura"⟩,
   ⟨.v2_10, 2, 10, some "kolkata"⟩, ⟨.v2_11, 2, 11, some "lima"⟩,
   ⟨.v2_12, 2, 12, some "naples"⟩, ⟨.v2_13, 2, 13, some "oslo"⟩,
   ⟨.v2_14, 2, 14, some "quebec"⟩, ⟨.v2_15, 2, 15, some "stockholm"⟩,
   ⟨.v2_20, 2, 20, some "nile-preview"⟩, ⟨.v2_21, 2, 21, some "nile"⟩]

namespace ApiVersion

/-- The newest version. -/
def latest : ApiVersion :=
  .v2_21

/-- The version with the given numbers. -/
def ofNumbers (major minor : Int) : ApiVersion :=
  match releases.find? fun r => (r.major : Int) == major && (r.minor : Int) == minor with
  | some r => r.version
  | none => .unknown

/-- The release of a version. -/
def release? (v : ApiVersion) : Option Release :=
  releases.find? (·.version == v)

/-- The numbers of a version. -/
def text (v : ApiVersion) : String :=
  match v.release? with
  | some r => Number.naturalText r.major ++ "." ++ Number.naturalText r.minor
  | none => "Unknown"

/-- The identifier of a version. -/
def identifier (v : ApiVersion) : String :=
  match v.release? with
  | some r => "V" ++ Number.naturalText r.major ++ "_" ++ Number.naturalText r.minor
  | none => "Unknown"

/-- The place of a version in the order of releases. -/
def place (v : ApiVersion) : Nat :=
  (releases.findIdx? (·.version == v)).getD releases.length

/-- Older versions come first, and an unknown one after all others. -/
def isBefore (v w : ApiVersion) : Bool :=
  v.place ≤ w.place

/-- Versions, oldest first. -/
def sort (vs : List ApiVersion) : List ApiVersion :=
  vs.mergeSort isBefore

end ApiVersion

end PoolClient

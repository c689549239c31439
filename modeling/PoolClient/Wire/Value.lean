import PoolClient.Number.Numeral
import PoolClient.Number.Shortest
import PoolClient.Text.Quoted
/-!
# Wire values

`Value` is what travels in a message: text, integers, doubles, truth values, dates, bytes,
arrays, structures and nil. A structure lists its members by name, in ascending order and each
name once: `ofMembers` puts members into that order (`pairwise_sortMembers`), and `Canonical`
says that it holds at every depth. `Value.display` is the short text that appears in error
messages.
-/

namespace PoolClient

/-- A value as it travels in a message. -/
inductive Value where
  | string (text : String)
  | int (n : Int64)
  | double (x : Float)
  | boolean (b : Bool)
  | dateTime (text : String)
  | base64 (bytes : List UInt8)
  | array (items : List Value)
  | struct (members : List (String × Value))
  | nil
  deriving Repr, Inhabited

/-- The types that a value can have. -/
inductive ValueType where
  | string | int | double | boolean | dateTime | base64 | array | struct | nil
  deriving DecidableEq, Repr

namespace Value

/-- The type of a value. -/
def type : Value → ValueType
  | .string _ => .string
  | .int _ => .int
  | .double _ => .double
  | .boolean _ => .boolean
  | .dateTime _ => .dateTime
  | .base64 _ => .base64
  | .array _ => .array
  | .struct _ => .struct
  | .nil => .nil

/-! ## Members of a structure -/

/-- Set the member `name`, keeping the names ascending. An earlier value is replaced. -/
def insertMember (name : String) (value : Value) : List (String × Value) → List (String × Value)
  | [] => [(name, value)]
  | (n, v) :: rest =>
    if name < n then (name, value) :: (n, v) :: rest
    else if name = n then (name, value) :: rest
    else (n, v) :: insertMember name value rest

/-- Members in ascending order; the last value of a repeated name stays. -/
def sortMembers (members : List (String × Value)) : List (String × Value) :=
  members.foldl (fun sorted m => insertMember m.1 m.2 sorted) []

/-- The structure with the given members. -/
def ofMembers (members : List (String × Value)) : Value :=
  .struct (sortMembers members)

/-- The value of the member `name`. -/
def member? (members : List (String × Value)) (name : String) : Option Value :=
  (members.find? (·.1 == name)).map (·.2)

/-- The members of a structure. -/
def members? : Value → Option (List (String × Value))
  | .struct members => some members
  | _ => none

/-- The text of a string. -/
def text? : Value → Option String
  | .string s => some s
  | _ => none

mutual

/-- At every depth, structures list their members by strictly ascending name. -/
def Canonical : Value → Prop
  | .array items => CanonicalItems items
  | .struct members => members.Pairwise (·.1 < ·.1) ∧ CanonicalMembers members
  | _ => True

/-- Every item is canonical. -/
def CanonicalItems : List Value → Prop
  | [] => True
  | v :: rest => v.Canonical ∧ CanonicalItems rest

/-- The value of every member is canonical. -/
def CanonicalMembers : List (String × Value) → Prop
  | [] => True
  | (_, v) :: rest => v.Canonical ∧ CanonicalMembers rest

end

theorem canonicalItems_iff {items : List Value} :
    CanonicalItems items ↔ ∀ v ∈ items, v.Canonical := by
  induction items with
  | nil => simp [CanonicalItems]
  | cons v rest ih => simp [CanonicalItems, ih]

theorem canonicalMembers_iff {members : List (String × Value)} :
    CanonicalMembers members ↔ ∀ m ∈ members, m.2.Canonical := by
  induction members with
  | nil => simp [CanonicalMembers]
  | cons m rest ih => simp [CanonicalMembers, ih]

/-! ## Setting and looking up members -/

/-- The first of some members, or one of the rest. -/
theorem member?_cons (name other : String) (value : Value) (rest : List (String × Value)) :
    member? ((name, value) :: rest) other =
      if other = name then some value else member? rest other := by
  by_cases h : other = name
  · simp [member?, h]
  · simp [member?, h, Ne.symm h]

/-- A member that was set has its new value, and the others keep theirs. -/
theorem member?_insertMember (name other : String) (value : Value)
    (members : List (String × Value)) :
    member? (insertMember name value members) other =
      if other = name then some value else member? members other := by
  induction members with
  | nil => exact member?_cons ..
  | cons m rest ih =>
    obtain ⟨n, v⟩ := m
    simp only [insertMember]
    split
    · exact member?_cons ..
    · split
      · subst_vars
        simp only [member?_cons]
        split <;> rfl
      · rename_i hn
        simp only [member?_cons, ih]
        by_cases h : other = n
        · simp [h, Ne.symm hn]
        · simp [h]

/-- Every name after setting a member was there before, or is the new one. -/
theorem name_of_mem_insertMember {name : String} {value : Value} {m : String × Value} :
    ∀ {members : List (String × Value)}, m ∈ insertMember name value members →
      m.1 = name ∨ m ∈ members
  | [], h => by
    rw [insertMember, List.mem_singleton] at h
    exact .inl (h ▸ rfl)
  | (n, v) :: rest, h => by
    simp only [insertMember] at h
    split at h
    · rcases List.mem_cons.1 h with rfl | h
      · exact .inl rfl
      · exact .inr h
    · split at h
      · rcases List.mem_cons.1 h with rfl | h
        · exact .inl rfl
        · exact .inr (List.mem_cons_of_mem _ h)
      · rcases List.mem_cons.1 h with rfl | h
        · exact .inr (List.mem_cons_self ..)
        · exact (name_of_mem_insertMember h).imp_right (List.mem_cons_of_mem _)

/-- Setting a member keeps the names ascending. -/
theorem pairwise_insertMember (name : String) (value : Value)
    {members : List (String × Value)} (h : members.Pairwise (·.1 < ·.1)) :
    (insertMember name value members).Pairwise (·.1 < ·.1) := by
  induction members with
  | nil => exact List.pairwise_singleton _ _
  | cons m rest ih =>
    obtain ⟨n, v⟩ := m
    obtain ⟨hn, hrest⟩ := List.pairwise_cons.1 h
    simp only [insertMember]
    split
    · rename_i hlt
      refine List.pairwise_cons.2 ⟨fun m hm => ?_, h⟩
      rcases List.mem_cons.1 hm with rfl | hm
      · exact hlt
      · exact String.lt_trans hlt (hn m hm)
    · split
      · rename_i heq
        exact List.pairwise_cons.2 ⟨fun m hm => heq ▸ hn m hm, hrest⟩
      · rename_i hlt hne
        refine List.pairwise_cons.2 ⟨fun m hm => ?_, ih hrest⟩
        rcases name_of_mem_insertMember hm with hm | hm
        · exact hm ▸ Std.lt_of_le_of_ne (String.not_lt.1 hlt) (Ne.symm hne)
        · exact hn m hm

/-- Members come out in strictly ascending order of their names. -/
theorem pairwise_sortMembers (members : List (String × Value)) :
    (sortMembers members).Pairwise (·.1 < ·.1) := by
  suffices ∀ sorted : List (String × Value), sorted.Pairwise (·.1 < ·.1) →
      (members.foldl (fun sorted m => insertMember m.1 m.2 sorted) sorted).Pairwise
        (·.1 < ·.1) from this [] List.Pairwise.nil
  induction members with
  | nil => exact fun _ h => h
  | cons m rest ih => exact fun _ h => ih _ (pairwise_insertMember m.1 m.2 h)

/-! ## Sameness -/

mutual

/-- Equal as data, with doubles compared as numbers: a value that holds a NaN is not the same
as itself, and the two zeros are the same. -/
def same : Value → Value → Bool
  | .string s, .string t => s == t
  | .int m, .int n => m == n
  | .double x, .double y => x == y
  | .boolean a, .boolean b => a == b
  | .dateTime s, .dateTime t => s == t
  | .base64 a, .base64 b => a == b
  | .array a, .array b => sameItems a b
  | .struct a, .struct b => sameMembers a b
  | .nil, .nil => true
  | _, _ => false

/-- Pairwise the same. -/
def sameItems : List Value → List Value → Bool
  | [], [] => true
  | v :: vs, w :: ws => v.same w && sameItems vs ws
  | _, _ => false

/-- Pairwise the same, names included. -/
def sameMembers : List (String × Value) → List (String × Value) → Bool
  | [], [] => true
  | (m, v) :: vs, (n, w) :: ws => m == n && v.same w && sameMembers vs ws
  | _, _ => false

end

/-! ## Display -/

mutual

/-- A short text for messages. Strings are quoted, and of bytes only the number is said. -/
def display : Value → String
  | .string s => Text.quoted s
  | .int n => Number.int64Text n
  | .double x => Number.doubleText x
  | .boolean b => if b then "true" else "false"
  | .dateTime s => s
  | .base64 bytes => "<" ++ Number.naturalText bytes.length ++ " bytes>"
  | .array items => "[" ++ String.intercalate ", " (displayItems items) ++ "]"
  | .struct members =>
    "\x7b" ++ String.intercalate ", " (displayMembers members) ++ "\x7d"
  | .nil => "nil"

/-- The items, each by its display. -/
def displayItems : List Value → List String
  | [] => []
  | v :: rest => v.display :: displayItems rest

/-- The members, each as name and value. -/
def displayMembers : List (String × Value) → List String
  | [] => []
  | (n, v) :: rest => (n ++ ": " ++ v.display) :: displayMembers rest

end

end Value

/-- The name of a type in messages. -/
def ValueType.name : ValueType → String
  | .string => "string"
  | .int => "int"
  | .double => "double"
  | .boolean => "boolean"
  | .dateTime => "dateTime.iso8601"
  | .base64 => "base64"
  | .array => "array"
  | .struct => "struct"
  | .nil => "nil"

end PoolClient

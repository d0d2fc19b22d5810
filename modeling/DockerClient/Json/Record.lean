import DockerClient.Json.Value

/-
**Records in JSON.**

A record is written as an object, whose members may stand in any order and of which those without
a field are ignored, or as an array of its fields in their order.  A field may not be given twice.

* `Json.Record.fields?`, `Json.Record.all?` — what is written for every field of a record, whose last
  fields an array may leave out or not;
* `Json.Record.object?` — the same for a record that has to be an object, and the other members;
* `Json.Raw.string?`, `Json.Raw.bool?`, `Json.Raw.table?`, `Json.Raw.list?`, `Json.Raw.int?` — what
  is written for a field as a value of its type;
* `Json.optional`, `Json.defaulted`, `Json.required` — fields that may be missing, and one that may
  not.
-/

set_option relaxedAutoImplicit false
set_option autoImplicit false

namespace DockerClient.Json

/-! ### Values of a type -/

/-- A string. -/
def Raw.string? : Raw → Option String
  | .string body => textOf? body
  | _ => none

/-- A truth value. -/
def Raw.bool? : Raw → Option Bool
  | .bool b => some b
  | _ => none

/-- A whole number of 64 bits with a sign. -/
def Raw.int? : Raw → Option Int
  | .number lexeme =>
      match Number.read? lexeme with
      | some (.integer i) => if i < Nat.pow 2 63 then some i else none
      | _ => none
  | _ => none

/-- All elements of a list, if each has the type. -/
def allOf {α β : Type} (f : α → Option β) : List α → Option (List β)
  | [] => some []
  | a :: rest =>
      match f a, allOf f rest with
      | some b, some bs => some (b :: bs)
      | _, _ => none

/-- An array whose elements have a type. -/
def Raw.list? {α : Type} (f : Raw → Option α) : Raw → Option (List α)
  | .array items => allOf f items
  | _ => none

/-- A named member whose value has a type. -/
def member? {α : Type} (f : Raw → Option α) (m : List UInt8 × Raw) : Option (String × α) :=
  match textOf? m.1, f m.2 with
  | some key, some v => some (key, v)
  | _, _ => none

/-- An object as a table of values of a type; of several members with one name the last counts. -/
def Raw.table? {α : Type} (f : Raw → Option α) : Raw → Option (Table α)
  | .object members => (allOf (member? f) members).map Table.ofList
  | _ => none

/-! ### Fields -/

/-- Members with their names read. -/
def namedMembers? (members : List (List UInt8 × Raw)) : Option (List (String × Raw)) :=
  allOf (member? some) members

/-- What the members give a field: nothing, one value, or too much. -/
def field? (members : List (String × Raw)) (name : String) : Option (Option Raw) :=
  match members.filter fun m => m.1 == name with
  | [] => some none
  | [m] => some (some m.2)
  | _ => none

/-- What is written for every field of an array record, from the front. -/
def inOrder? : List String → List Raw → Option (List (Option Raw))
  | names, [] => some (names.map fun _ => none)
  | [], _ :: _ => none
  | _ :: names, item :: rest => (inOrder? names rest).map (some item :: ·)

/-- What is written for every field of an object, and the members without a field. -/
def Record.object? (names : List String) :
    Raw → Option (List (Option Raw) × List (String × Raw))
  | .object members =>
      match namedMembers? members with
      | none => none
      | some ms =>
          (allOf (field? ms) names).map fun fs => (fs, ms.filter fun m => !names.contains m.1)
  | _ => none

/-- What is written for every field of a record. -/
def Record.fields? (names : List String) : Raw → Option (List (Option Raw))
  | .array items => inOrder? names items
  | raw => (Record.object? names raw).map (·.1)

/-- What is written for every field of a record of which an array has to give all fields. -/
def Record.all? (names : List String) (raw : Raw) : Option (List (Option Raw)) :=
  match raw with
  | .array items => if items.length = names.length then some (items.map some) else none
  | _ => Record.fields? names raw

/-- A field that may be missing or null. -/
def optional {α : Type} (f : Raw → Option α) : Option Raw → Option (Option α)
  | none => some none
  | some .null => some none
  | some raw => (f raw).map some

/-- A field with a value for when it is missing. -/
def defaulted {α : Type} (f : Raw → Option α) (default : α) : Option Raw → Option α
  | none => some default
  | some raw => f raw

/-- A field that may not be missing. -/
def required {α : Type} (f : Raw → Option α) : Option Raw → Option α
  | none => none
  | some raw => f raw

end DockerClient.Json

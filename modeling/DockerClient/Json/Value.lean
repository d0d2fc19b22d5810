import DockerClient.Json.Number
import DockerClient.Json.Quoted
import DockerClient.Table

/-
**JSON values.**

* `Json.Value` — a value with its numbers and strings read;
* `Json.Value.ofRaw?` — the value of a written one, if its numbers fit, its strings are well formed
  and it does not nest too deep; of several members with one name the last counts;
* `Json.Value.read?`, `Json.Value.write` — a value and its written form;
* `Json.Value.ofMembers`, `Json.Value.ofTable` — objects.
-/

set_option relaxedAutoImplicit false
set_option autoImplicit false

namespace DockerClient.Json

/-- A value.  The members of an object are in order of their names. -/
inductive Value where
  | null
  | bool (value : Bool)
  | number (value : Number)
  | string (value : String)
  | array (items : List Value)
  | object (members : List (String × Value))
deriving Repr

namespace Value

/-! ### From written values -/

mutual

/-- The value of a written one that nests at most the given number of levels. -/
def ofRaw? : Nat → Raw → Option Value
  | _, .null => some .null
  | _, .bool b => some (.bool b)
  | _, .number lexeme => (Number.read? lexeme).map .number
  | _, .string body => (textOf? body).map .string
  | 0, .array _ => none
  | 0, .object _ => none
  | levels + 1, .array items => (itemsOfRaw? levels items).map .array
  | levels + 1, .object members =>
      (membersOfRaw? levels members).map fun ms => .object (Table.ofList ms).entries

/-- The values of written elements. -/
def itemsOfRaw? : Nat → List Raw → Option (List Value)
  | _, [] => some []
  | levels, item :: rest =>
      match ofRaw? levels item, itemsOfRaw? levels rest with
      | some v, some vs => some (v :: vs)
      | _, _ => none

/-- The names and values of written members. -/
def membersOfRaw? : Nat → List (List UInt8 × Raw) → Option (List (String × Value))
  | _, [] => some []
  | levels, (key, item) :: rest =>
      match textOf? key, ofRaw? levels item, membersOfRaw? levels rest with
      | some k, some v, some vs => some ((k, v) :: vs)
      | _, _, _ => none

end

/-- The levels of nesting that a whole text may have. -/
def maxLevels : Nat := 127

/-! ### Written form -/

mutual

/-- The written form of a value. -/
def write : Value → List UInt8
  | .null => [0x6E, 0x75, 0x6C, 0x6C]
  | .bool true => [0x74, 0x72, 0x75, 0x65]
  | .bool false => [0x66, 0x61, 0x6C, 0x73, 0x65]
  | .number n => n.write
  | .string s => quoted s
  | .array items => 0x5B :: writeItems items ++ [0x5D]
  | .object members => 0x7B :: writeMembers members ++ [0x7D]

/-- The written forms of elements, separated by commas. -/
def writeItems : List Value → List UInt8
  | [] => []
  | v :: rest =>
      match rest with
      | [] => v.write
      | _ => v.write ++ 0x2C :: writeItems rest

/-- The written forms of members, separated by commas. -/
def writeMembers : List (String × Value) → List UInt8
  | [] => []
  | (k, v) :: rest =>
      match rest with
      | [] => quoted k ++ 0x3A :: v.write
      | _ => quoted k ++ 0x3A :: v.write ++ 0x2C :: writeMembers rest

end

/-- The object with the given members. -/
def ofMembers (members : List (String × Value)) : Value := .object (Table.ofList members).entries

/-- The value that bytes are the written form of. -/
def read? (bytes : List UInt8) : Option Value :=
  match Raw.read bytes with
  | .ok raw => ofRaw? maxLevels raw
  | .error _ => none

/-- The object of a table. -/
def ofTable {α : Type} (f : α → Value) (t : Table α) : Value :=
  .object (t.mapValues f).entries

end Value

end DockerClient.Json

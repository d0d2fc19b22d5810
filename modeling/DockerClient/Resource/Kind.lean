import DockerClient.Daemon.Call
import DockerClient.Labels

/-
**Kinds of resources**, and what is common to lists of them.

* `ResourceKind`, `ResourceKind.name` — the kinds, as the daemon names them;
* `Filters`, `Filters.add` — the conditions on a list, several values to a name.
-/

set_option relaxedAutoImplicit false
set_option autoImplicit false

namespace DockerClient

/-- The kinds of resources. -/
inductive ResourceKind where
  | network
  | volume
deriving DecidableEq, Repr

/-- The name that the daemon gives a kind. -/
def ResourceKind.name : ResourceKind → String
  | .network => "network"
  | .volume => "volume"

/-- Conditions on a list: the values for every name, in the order in which they were added. -/
abbrev Filters := Table (List String)

namespace Filters

/-- Conditions with one more value for a name. -/
def add (filters : Filters) (name value : String) : Filters :=
  filters.insert name ((filters.get? name).getD [] ++ [value])

/-- The conditions that pairs of names and values make, added in order. -/
def ofList (pairs : List (String × String)) : Filters :=
  pairs.foldl (fun f p => f.add p.1 p.2) Table.empty

/-- The query that asks for what meets the conditions. -/
def query (filters : Filters) : List (String × String) :=
  let value := Json.Value.ofTable (fun values => .array (values.map .string)) filters
  [("filters", Text.decodeLossy value.write)]

end Filters

/-- A text among the values of an object. -/
def textValue (s : String) : Json.Value := .string s

/-- The object of a table of texts. -/
def tableValue (t : Table String) : Json.Value := Json.Value.ofTable .string t

end DockerClient

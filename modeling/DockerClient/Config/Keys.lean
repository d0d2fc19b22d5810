import DockerClient.Image.Registry
import DockerClient.Table

/-
**One key per registry host.**

A configuration may name one host in several ways.  Its entries are kept under the normalized host;
of several names for one host, the normalized name itself wins, then the smallest.

* `Config.before` — the order in which names win;
* `Config.byHost` — the entries under their normalized hosts.
-/

set_option relaxedAutoImplicit false
set_option autoImplicit false

namespace DockerClient.Config

/-- Whether a name is the normalized name of its host. -/
def isOwnKey (key : String) : Bool := Registry.authKey key == key

/-- The order in which names win: normalized names first, then by the names themselves. -/
def before {α : Type} (a b : String × α) : Bool :=
  if isOwnKey a.1 = isOwnKey b.1 then decide (a.1 ≤ b.1) else isOwnKey a.1

/-- Entries, in any order, under their normalized hosts. -/
def byHost {α : Type} (entries : List (String × α)) : Table α :=
  (entries.mergeSort before).foldl (fun t e => t.insertNew (Registry.authKey e.1) e.2) Table.empty

end DockerClient.Config

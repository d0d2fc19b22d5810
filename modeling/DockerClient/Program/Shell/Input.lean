import DockerClient.Program.Shell.Fields
import DockerClient.Program.Shell.State

/-
**Reading lines into variables.**

* `Shell.readLine` — reads a line from the input, with its escaped characters;
* `Shell.readCommand` — `read`: sets variables to the fields of a line.
-/

set_option relaxedAutoImplicit false
set_option autoImplicit false

namespace DockerClient.Shell

/-- Reads a line from the input: its characters, in regions between those that a backslash escapes;
whether its end was there.  A region has begun at `start`, and a backslash may have come last. -/
def readLine (asIs : Bool) : Nat → Nat → Bool → Buffer → Shell (Buffer × Bool)
  | 0, start, _, b => pure (b.note start false, false)
  | fuel + 1, start, escaped, b => do
      let st ← get
      match st.process.readSome 0 1 with
      | .error _ => pure (b.note start false, false)
      | .ok ([], p) =>
          set { st with process := p }
          pure (b.note start false, false)
      | .ok (c :: _, p) =>
          set { st with process := p }
          if c = '\x00' then readLine asIs fuel start escaped b
          else if escaped then
            let b := b.note start false
            let b := if c = '\n' then b else b.push (.plain c)
            readLine asIs fuel b.size false b
          else if c = '\\' ∧ !asIs then readLine asIs fuel start true b
          else if c = '\n' then pure (b.note start false, true)
          else readLine asIs fuel start false (b.push (.plain c))

/-- Sets variables to fields; those that no field is left for become empty. -/
def assignFields : List Bytes → List (List Cell) → Shell Unit
  | [], _ => pure ()
  | name :: names, [] => do
      setVariable name []
      assignFields names []
  | name :: names, field :: fields => do
      setVariable name (plainText field)
      assignFields names fields

/-- How long a line may be. -/
def lineLimit : Nat := 1000000

/-- `read`: sets variables to the fields of a line; the last one gets all that is left. -/
def readCommand (args : List Bytes) : Shell Nat := do
  let (options, names) ← optionsOf "p:r" args
  if names.isEmpty then raise "arg count".toList
  let asIs := options.any fun o => o.1 == 'r'
  let (b, complete) ← readLine asIs lineLimit 0 false {}
  assignFields names (b.divide (← get).separators (some names.length))
  pure (if complete then 0 else 1)

end DockerClient.Shell

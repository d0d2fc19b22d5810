import DockerClient.Program.Shell.Expansion

/-
**Where the streams of a command go.**

* `Shell.Aim`, `Shell.aims` — what redirections come to when their words are expanded;
* `Shell.redirect` — redirects streams; `Shell.restoring` — brings them back afterwards;
* `Shell.attempt` — notices that a step failed.
-/

set_option relaxedAutoImplicit false
set_option autoImplicit false

namespace DockerClient.Shell

/-- Where a stream goes: to or from a file, another stream, nowhere, or from a text. -/
inductive Aim where
  | file (direction : Script.Direction) (path : Bytes)
  | copy (source : Nat)
  | closed
  | text (number : Nat)

/-- The stream that a text names. -/
def aimOf (text : Bytes) : Shell Aim := do
  match text with
  | ['-'] => pure .closed
  | [c] => if Script.isDigit c then pure (.copy (c.toNat - 48)) else refuse
  | _ => refuse
where
  /-- Complains about a text that names no stream. -/
  refuse : Shell Aim := do
    modify fun st => { st with line := st.lastLine }
    raise "Syntax error: Bad fd number".toList

/-- Expands the words of redirections. -/
def aims (run : Substitute) : List Script.Redirect → Shell (List (Nat × Aim))
  | [] => pure []
  | r :: rest => do
      let aim ←
        match r with
        | .file fd direction path => pure (fd, Aim.file direction (← textOf run path))
        | .stream fd (some source) => pure (fd, Aim.copy source)
        | .stream fd none => pure (fd, Aim.closed)
        | .named fd source => pure (fd, ← aimOf (← textOf run source))
        | .text fd number => pure (fd, Aim.text number)
      pure (aim :: (← aims run rest))

/-- Complains about a file that can not be opened. -/
def refuseFile {α : Type} (creates : Bool) (path : Bytes) (e : SystemFault) : Shell α :=
  let reason :=
    if e = .noEntry ∨ e = .notDirectory then
      if creates then "Directory nonexistent" else "No such file"
    else e.text
  raise ((if creates then "cannot create " else "cannot open ").toList ++ path ++ ": ".toList
    ++ reason.toList)

/-- Opens a file; gives its channel. -/
def openFile (direction : Script.Direction) (path : Bytes) : Shell Nat := do
  let st ← get
  let attempt (opening : Opening) (creates : Bool) : Shell Nat :=
    match st.process.open? path opening with
    | .ok (n, p) => do
        set { st with process := p }
        pure n
    | .error e => refuseFile creates path e
  match direction with
  | .input => attempt .read false
  | .both => attempt .both true
  | .output => attempt .create true
  | .append => attempt .append true
  | .safe =>
      if st.has 'C' then
        match st.process.find path with
        | .ok (.file _ _) | .ok (.tool _) => refuseFile true path .alreadyThere
        | .ok _ => attempt .write false
        | .error _ => attempt .create true
      else attempt .create true

/-- Redirects a stream.  One that is to be brought back is closed before it becomes a copy. -/
def redirectOne (run : Substitute) (returns : Bool) (fd : Nat) (aim : Aim) : Shell Unit := do
  match aim with
  | .file direction path =>
      let n ← openFile direction path
      onProcess fun p => p.setStream fd n
  | .closed => onProcess fun p => p.closeStream fd
  | .copy source =>
      if source = fd then pure ()
      else
        match (← get).process.channel? source with
        | some n => onProcess fun p => p.setStream fd n
        | none =>
            if returns then onProcess fun p => p.closeStream fd
            raise (Bytes.ofNat source ++ ": ".toList ++ SystemFault.badDescriptor.text.toList)
  | .text number =>
      let text ← belowOf run (((← get).texts.lookup number).getD [])
      let st ← get
      let (n, k) := st.process.kernel.addChannel (.stream [(0, text)] 0)
      set { st with process := { st.process with kernel := k }.setStream fd n }

/-- Redirects streams one after the other. -/
def redirect (run : Substitute) (returns : Bool) : List (Nat × Aim) → Shell Unit
  | [] => pure ()
  | (fd, aim) :: rest => do
      redirectOne run returns fd aim
      redirect run returns rest

/-- Brings streams back to where they went before. -/
def State.restoreStreams (before : List (Nat × Nat)) (changed : List (Nat × Aim)) (st : State) :
    State :=
  let p := changed.foldl (fun p a =>
    match before.lookup a.1 with
    | some n => p.setStream a.1 n
    | none => p.closeStream a.1) st.process
  { st with process := p }

/-- Does a step, and brings streams back however it ends. -/
def restoring {α : Type} (before : List (Nat × Nat)) (changed : List (Nat × Aim)) (step : Shell α) :
    Shell α := fun st =>
  match step st with
  | .ok a st => .ok a (st.restoreStreams before changed)
  | .error e st => .error e (st.restoreStreams before changed)

/-- Does a step; false if a fault ends it. -/
def attempt (step : Shell Unit) : Shell Bool := fun st =>
  match step st with
  | .ok _ st => .ok true st
  | .error .fault st => .ok false st
  | .error e st => .error e st

end DockerClient.Shell

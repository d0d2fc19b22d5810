import DockerClient.Program.Shell.State

/-
**Which command a name stands for.**

* `Shell.Builtin` — the commands that a shell runs itself;
* `Shell.Found` — a function, a command of the shell, a program, or nothing;
* `Shell.search` — looks for a command; programs that were found are remembered;
* `Shell.describe` — says what a name stands for.
-/

set_option relaxedAutoImplicit false
set_option autoImplicit false

namespace DockerClient.Shell

/-! ### Commands of the shell -/

/-- A command that a shell runs itself. -/
inductive Builtin where
  | alias
  | background
  | check
  | colon
  | command
  | directory
  | echo
  | enter
  | evaluate
  | exit
  | export
  | fail
  | flags
  | foreground
  | format
  | hash
  | jobs
  | kill
  | leave
  | limit
  | localVariable
  | mask
  | read
  | readOnly
  | repeat
  | replace
  | return
  | set
  | shift
  | source
  | times
  | trap
  | type
  | unalias
  | unset
  | wait
deriving DecidableEq, Repr

namespace Builtin

/-- The commands by their names. -/
def table : List (String × Builtin) :=
  [(".", .source), (":", .colon), ("[", .check), ("alias", .alias), ("bg", .background),
   ("break", .leave), ("cd", .enter), ("chdir", .enter), ("command", .command),
   ("continue", .repeat), ("echo", .echo), ("eval", .evaluate), ("exec", .replace),
   ("exit", .exit), ("export", .export), ("false", .fail), ("fg", .foreground),
   ("getopts", .flags), ("hash", .hash), ("jobs", .jobs), ("kill", .kill),
   ("local", .localVariable), ("printf", .format), ("pwd", .directory), ("read", .read),
   ("readonly", .readOnly), ("return", .return), ("set", .set), ("shift", .shift),
   ("test", .check), ("times", .times), ("trap", .trap), ("true", .colon), ("type", .type),
   ("ulimit", .limit), ("umask", .mask), ("unalias", .unalias), ("unset", .unset),
   ("wait", .wait)]

/-- The command of a name. -/
def ofName? (name : Bytes) : Option Builtin := (table.find? fun e => e.1.toList == name).map (·.2)

/-- Whether a fault in a command of this name ends the shell. -/
def isSpecial (name : Bytes) : Bool := Script.reserved.any fun s => s.toList == name

/-- Whether the arguments of a command may be settings of variables. -/
def takesSettings : Builtin → Bool
  | .alias | .export | .localVariable | .readOnly => true
  | _ => false

end Builtin

/-! ### Searching -/

/-- What a name stands for. -/
inductive Found where
  | function (line : Nat) (body : Script.Command)
  | builtin (b : Builtin) (special : Bool)
  | program (path : Bytes) (remembered : Bool)
  | missing (e : SystemFault)

/-- The search path for commands that every machine has. -/
def standardPath : Bytes :=
  "/usr/local/sbin:/usr/local/bin:/usr/sbin:/usr/bin:/sbin:/bin".toList

/-- The first program of a name on a search path, and why there is none. -/
def searchPrograms (p : Process) (name : Bytes) : List Bytes → SystemFault → Except SystemFault Bytes
  | [], e => .error e
  | path :: rest, e =>
      match p.find path with
      | .ok (.file _ true) | .ok (.tool _) => .ok path
      | .ok _ => searchPrograms p name rest .denied
      | .error .noEntry | .error .notDirectory => searchPrograms p name rest e
      | .error e => searchPrograms p name rest e

/-- Looks for a command that is not a program. -/
def State.ownCommand? (st : State) (functions : Bool) (name : Bytes) : Option Found :=
  match (if functions then st.functions.lookup name else none), Builtin.ofName? name with
  | some (line, body), _ => some (.function line body)
  | none, some b => some (.builtin b (Builtin.isSpecial name))
  | none, none => none

/-- Looks for a command.  Programs of the usual search path are remembered; a path is taken as it
is. -/
def search (functions : Bool) (otherPath : Option Bytes) (name : Bytes) : Shell Found := do
  let st ← get
  if name.contains '/' then pure (.program name false)
  else
    match st.ownCommand? functions name with
    | some found => pure found
    | none =>
        match otherPath, st.hashed.lookup name with
        | none, some path => pure (.program path true)
        | _, _ =>
            match searchPrograms st.process name
                (Process.pathsOf (otherPath.getD st.searchPath) name) .noEntry with
            | .error e => pure (.missing e)
            | .ok path =>
                if otherPath.isNone then set { st with hashed := st.hashed ++ [(name, path)] }
                pure (.program path false)

/-- What is said of a program that can not be run. -/
def runFaultText (e : SystemFault) : Bytes :=
  match e with
  | .noEntry | .notDirectory => "not found".toList
  | e => e.text.toList

/-! ### Descriptions -/

/-- An alias as it is listed. -/
def aliasText (a : Bytes × Bytes) : Bytes := a.1 ++ '=' :: singleQuoted a.2 ++ ['\n']

/-- Says what a name stands for; the status is 127 if that is nothing. -/
def describe (otherPath : Option Bytes) (verbose : Bool) (name : Bytes) : Shell Nat := do
  let st ← get
  let say (long : String) : Shell Nat := do
    print (name ++ (if verbose then long.toList else []) ++ ['\n'])
    pure 0
  if Script.keywords.any fun k => k.toList == name then say " is a shell keyword"
  else
    match st.aliases.lookup name with
    | some text =>
        if verbose then print (name ++ " is an alias for ".toList ++ text ++ ['\n'])
        else print ("alias ".toList ++ aliasText (name, text))
        pure 0
    | none =>
        let missing : Shell Nat := do
          if verbose then print (name ++ ": not found\n".toList)
          pure 127
        match ← search true otherPath name with
        | .function _ _ => say " is a shell function"
        | .builtin _ true => say " is a special shell builtin"
        | .builtin _ false => say " is a shell builtin"
        | .missing _ => missing
        | .program path remembered =>
            if name.contains '/' && (st.process.find name).toBool == false then missing
            else
              let tracked := if remembered then " a tracked alias for".toList else []
              print ((if verbose then name ++ " is".toList ++ tracked ++ [' '] else [])
                ++ path ++ ['\n'])
              pure 0

end DockerClient.Shell

import DockerClient.Program.Shell.State

/-
**The working directory of a shell.**

* `Shell.resolved` — a path without dots, as a text;
* `Shell.moveTo` — changes the directory;
* `Shell.enterCommand`, `Shell.directoryCommand` — `cd` and `pwd`.
-/

set_option relaxedAutoImplicit false
set_option autoImplicit false

namespace DockerClient.Shell

/-- Names below others, innermost first, with dots followed as far as the first names. -/
def withoutDots (above : List Bytes) : List Bytes → List Bytes
  | [] => above
  | name :: rest =>
      if name.isEmpty ∨ name = ['.'] then withoutDots above rest
      else if name = ['.', '.'] then withoutDots (above.drop 1) rest
      else withoutDots (name :: above) rest

/-- A path from a directory without dots, as a text.  Two slashes at its beginning are kept. -/
def resolved (directory path : Bytes) : Bytes :=
  let full :=
    if path.head? = some '/' then path
    else if directory.getLast? = some '/' then directory ++ path
    else directory ++ '/' :: path
  let double :=
    match full with
    | '/' :: '/' :: c :: _ => c != '/'
    | ['/', '/'] => true
    | _ => false
  let names := (withoutDots [] (Text.segments '/' full)).reverse
  (if double then ['/', '/'] else ['/']) ++ ['/'].intercalate names

/-- The path of names. -/
def pathOfNames (names : List String) : Bytes :=
  '/' :: ['/'].intercalate (names.map Bytes.ofText)

/-- Changes the directory; false if there is none at the path. -/
def moveTo (physical : Bool) (path : Bytes) : Shell Bool := do
  let st ← get
  let target := if physical then path else resolved st.directory path
  match st.process.kernel.place st.process.directory target with
  | .ok (names, some (.dir _)) =>
      let shown := if physical then pathOfNames names else target
      let before := st.directory
      onProcess fun p => { p with directory := pathOfNames names }
      setMarked "OLDPWD".toList (some before) true false false
      modify fun st => { st with directory := shown }
      setMarked "PWD".toList (some shown) true false false
      pure true
  | _ => pure false

/-- The first directory of a name in a list of directories, and whether the directory that it is in
was named. -/
def inDirectories (p : Process) (name : Bytes) : List Bytes → Option (Bytes × Bool)
  | [] => none
  | dir :: rest =>
      let path := if dir.isEmpty then name else dir ++ '/' :: name
      if p.isDirectory path then some (path, !dir.isEmpty) else inDirectories p name rest

/-- Whether the options ask for a path without links. -/
def isPhysical (options : List (Char × Bytes)) : Bool := (options.getLast?.map (·.1)) == some 'P'

/-- `cd`: changes the directory. -/
def enterCommand (args : List Bytes) : Shell Nat := do
  let (options, rest) ← optionsOf "LP" args
  let physical := isPhysical options
  let st ← get
  let (target, back) : Bytes × Bool :=
    match rest with
    | [] => ((st.value? "HOME".toList).getD [], false)
    | ['-'] :: _ => ((st.value? "OLDPWD".toList).getD [], true)
    | target :: _ => (target, false)
  let first := (Text.segments '/' target).head?.getD []
  let found : Option (Bytes × Bool) :=
    if target.head? = some '/' ∨ first = ['.'] ∨ first = ['.', '.'] then none
    else
      inDirectories st.process (if target.isEmpty then ['.'] else target)
        (Text.segments ':' ((st.value? "CDPATH".toList).getD []))
  let (path, shows) := found.getD (target, false)
  if ← moveTo physical path then
    if shows || back then print ((← get).directory ++ ['\n'])
    pure 0
  else raise ("can't cd to ".toList ++ target)

/-- `pwd`: prints the directory. -/
def directoryCommand (args : List Bytes) : Shell Nat := do
  let (options, _) ← optionsOf "LP" args
  let st ← get
  print ((if isPhysical options then st.process.directory else st.directory) ++ ['\n'])
  pure 0

end DockerClient.Shell

import DockerClient.Program.Pattern
import DockerClient.Program.Process

/-
**The paths that have the form of a pattern.**

* `Shell.Glob.component?` — the first part of a pattern between separators that is more than itself;
* `Shell.paths` — the paths of files that have the form of a pattern, in order.
-/

set_option relaxedAutoImplicit false
set_option autoImplicit false

namespace DockerClient.Shell

namespace Glob

/-- Whether a set that begins with a bracket is closed before the next separator. -/
def closes : Nat → Bytes → Bool
  | 0, _ => false
  | fuel + 1, s =>
      let s := if s.head? = some '\\' then s.drop 1 else s
      match s with
      | [] => false
      | '/' :: _ => false
      | _ :: rest => rest.head? == some ']' || closes fuel rest

/-- Whether a set that begins with a bracket is closed before the next separator. -/
def isSet (s : Bytes) : Bool :=
  closes (s.length + 1) (if s.head? = some '!' then s.drop 1 else s)

/-- The first part of a pattern between separators that is more than itself: what comes before it, the
part, and what follows the separator after it. -/
structure Component where
  before : Bytes
  part : Bytes
  after : Option Bytes

/-- Looks for the first part of a pattern that is more than itself.  `before` and `part` are given from
the end to the beginning. -/
def find (before part : Bytes) (special : Bool) : Bytes → Option Component
  | [] => if special then some ⟨before.reverse, part.reverse, none⟩ else none
  | '\\' :: '/' :: s =>
      if special then some ⟨before.reverse, part.reverse, some s⟩
      else find ('/' :: '\\' :: part ++ before) [] false s
  | '\\' :: c :: s => find before (c :: '\\' :: part) special s
  | '/' :: s =>
      if special then some ⟨before.reverse, part.reverse, some s⟩
      else find ('/' :: part ++ before) [] false s
  | c :: s => find before (c :: part) (special || c == '*' || c == '?' || (c == '[' && isSet s)) s

/-- The first part of a pattern between separators that is more than itself. -/
def component? (pattern : Bytes) : Option Component := find [] [] false pattern

/-- A text without the backslashes that take a meaning away. -/
def unescape : Bytes → Bytes
  | '\\' :: c :: s => c :: unescape s
  | c :: s => c :: unescape s
  | [] => []

/-- The names in a directory, with the directory itself and its parent. -/
def names (p : Process) (directory : Bytes) : List Bytes :=
  match p.find (if directory.isEmpty then ['.'] else directory) with
  | .ok (.dir entries) => ['.'] :: ['.', '.'] :: entries.map fun e => Bytes.ofText e.1
  | _ => []

/-- The names that have the form of a part; a name that begins with a dot must be asked for. -/
def matching (part : Bytes) (names : List Bytes) : List Bytes :=
  let start := if part.head? = some '\\' then part.drop 1 else part
  let dots := start.head? == some '.'
  names.filter fun n => (dots || n.head? != some '.') && Pattern.admits part n

/-- The paths of files that have the form of a pattern below a directory. -/
def below (p : Process) : Nat → Bytes → Bytes → List Bytes
  | 0, _, _ => []
  | fuel + 1, directory, pattern =>
      match component? pattern with
      | none =>
          let path := directory ++ unescape pattern
          if directory.isEmpty then []
          else
            match p.find path with
            | .ok _ => [path]
            | .error _ => []
      | some c =>
          let directory := directory ++ unescape c.before
          let found := matching c.part (names p directory)
          match c.after with
          | none => found.map fun n => directory ++ n
          | some rest => found.flatMap fun n => below p fuel (directory ++ n ++ ['/']) rest

end Glob

/-- The paths of files that have the form of a pattern, in order. -/
def paths (p : Process) (pattern : Bytes) : List Bytes :=
  (Glob.below p (pattern.length + 1) [] pattern).mergeSort Bytes.le

end DockerClient.Shell

import DockerClient.Text.Cut
import DockerClient.Text.Utf8
import DockerClient.World.Files

/-
**Trees of files**: a concrete file system.

* `FileTree` — files, devices, sockets and directories, and the programs that come with a machine;
* `FileTree.put` — the tree with one file, its parents made as needed;
* `FileTree.find` — what a path leads to, with `.`, `..` and trailing separators;
* `FileTree.files` — the tree as a file system.
-/

set_option relaxedAutoImplicit false
set_option autoImplicit false

namespace DockerClient

/-- The programs that come with a machine. -/
inductive Tool where
  | shell
  | cat
  | sleep
  | echo
  | head
  | env
  | succeed
  | fail
deriving DecidableEq, Repr

/-- Files without content of their own: nothing, zeros without end, and a file without room. -/
inductive Device where
  | null
  | zero
  | full
deriving DecidableEq, Repr

/-- A file system as a tree. -/
inductive FileTree where
  | file (content : List UInt8) (executable : Bool)
  | tool (t : Tool)
  | device (d : Device)
  | socket
  | dir (entries : List (String × FileTree))

namespace FileTree

/-! ### Building -/

/-- Entries with one of them set. -/
def setEntry (name : String) (node : FileTree) :
    List (String × FileTree) → List (String × FileTree)
  | [] => [(name, node)]
  | (n, old) :: rest =>
      if n = name then (n, node) :: rest else (n, old) :: setEntry name node rest

/-- The tree with something at a path of names.  Directories on the way are made, and an empty
directory does not replace one that is there. -/
def putAt (node : FileTree) : List String → FileTree → FileTree
  | [], .dir old =>
      match node with
      | .dir [] => .dir old
      | _ => node
  | [], _ => node
  | name :: names, .dir entries =>
      .dir (setEntry name (putAt node names ((entries.lookup name).getD (.dir []))) entries)
  | name :: names, _ => .dir [(name, putAt node names (.dir []))]

/-- The names in a path. -/
def names (path : String) : List String :=
  (Text.pieces path '/').filter (· ≠ "")

/-- The tree with something at a path. -/
def put (tree : FileTree) (path : String) (node : FileTree) : FileTree :=
  putAt node (names path) tree

/-- The tree without what is at a path of names. -/
def removeAt : List String → FileTree → FileTree
  | [], tree => tree
  | [name], .dir entries => .dir (entries.filter (·.1 ≠ name))
  | name :: names, .dir entries =>
      match entries.lookup name with
      | some child => .dir (setEntry name (removeAt names child) entries)
      | none => .dir entries
  | _, tree => tree

/-- What is at a path of names. -/
def at? : List String → FileTree → Option FileTree
  | [], tree => some tree
  | name :: names, .dir entries => (entries.lookup name).bind (at? names)
  | _ :: _, _ => none

/-! ### Looking up -/

/-- Why a path leads nowhere. -/
inductive Missing where
  | absent
  | notDirectory
  | tooLong
  | invalid
deriving DecidableEq, Repr

/-- The longest name, in bytes. -/
def maxName : Nat := 255

/-- The longest path, in bytes. -/
def maxPath : Nat := 4095

/-- Follows names from a node, whose ancestors are given from the inside out. -/
def walk (ancestors : List FileTree) (node : FileTree) : List String → Except Missing FileTree
  | [] => .ok node
  | name :: rest =>
      match node with
      | .dir entries =>
          if name = "." then walk ancestors node rest
          else if name = ".." then
            match ancestors with
            | [] => walk [] node rest
            | parent :: above => walk above parent rest
          else if maxName < name.utf8ByteSize then .error .tooLong
          else
            match entries.lookup name with
            | none => .error .absent
            | some child => walk (node :: ancestors) child rest
      | _ => .error .notDirectory

/-- What an absolute path leads to; a trailing separator asks for a directory.  Relative paths lead
nowhere. -/
def find (tree : FileTree) (path : String) : Except Missing FileTree :=
  if path.toList.contains '\x00' then .error .invalid
  else if maxPath < path.utf8ByteSize then .error .tooLong
  else if path.toList.head? ≠ some '/' then .error .absent
  else
    let trailing := if path.toList.getLast? = some '/' then ["."] else []
    walk [] tree (names path ++ trailing)

/-- The tree as a file system. -/
def files (tree : FileTree) : Files where
  read path :=
    match tree.find path with
    | .ok (.file content _) => .ok content
    | .ok _ => .error .failed
    | .error .absent => .error .absent
    | .error _ => .error .failed
  present path := (tree.find path).toBool

end FileTree

end DockerClient

import ProxyRouting.Config.Document

/-!
# Files and paths

A file tree is what a program finds under a directory: configuration files, each with
its document or the complaint of the parser, and directories. A path leads from the
working directory to a place in the tree. Its components stand between slashes; empty
ones and `.` stay where they are, `..` goes up, and every step needs a directory to start
from. Above the working directory, and at the root, nothing is known but directories.

A path ends at its first zero byte, and one that is longer than `maxPathLength` leads nowhere.
-/

namespace ProxyRouting.Config

/-- What a parser makes of a configuration file. -/
inductive Content where
  /-- A document. -/
  | document (d : Document)
  /-- A complaint. -/
  | malformed (message : Bytes)

/-- A file, or a directory with named entries. -/
inductive FileTree where
  /-- A regular file. -/
  | file (content : Content)
  /-- A directory. -/
  | directory (entries : List (Bytes × FileTree))

namespace FileTree

/-! ### Paths -/

/-- The path of an entry of a directory. -/
def join (directory name : Bytes) : Bytes :=
  if directory = [] ∨ directory.getLast? = some slash then directory ++ name
  else directory ++ slash :: name

/-- Goes one component further. The trail holds the place reached and then what lies
above it; an empty trail is a place above the working directory. -/
def step (trail : List FileTree) (component : Bytes) : Option (List FileTree) :=
  match trail with
  | .file _ :: _ => none
  | .directory entries :: above =>
    if component = [] ∨ component = ascii "." then some trail
    else if component = ascii ".." then some above
    else (entries.lookup component).map (· :: trail)
  | [] =>
    if component = [] ∨ component = ascii "." ∨ component = ascii ".." then some []
    else none

/-- Goes along some components. -/
def walk : List FileTree → List Bytes → Option (List FileTree)
  | trail, [] => some trail
  | trail, component :: rest =>
    match step trail component with
    | some trail => walk trail rest
    | none => none

/-- What a path without zero bytes leads to, whatever its length. -/
def follow? (working : FileTree) (path : Bytes) : Option FileTree :=
  (walk (if path.head? = some slash then [] else [working]) (path.splitOn slash)).map
    fun trail => trail.headD (.directory [])

/-- The most bytes that a path may have. -/
def maxPathLength : Nat := 4095

/-- What a path leads to, seen from a working directory. -/
def locate? (working : FileTree) (path : Bytes) : Option FileTree :=
  if untilNul path = [] ∨ maxPathLength < (untilNul path).length then none
  else working.follow? (untilNul path)

end FileTree

/-- What each path leads to. -/
abbrev Lookup := Bytes → Option FileTree

end ProxyRouting.Config

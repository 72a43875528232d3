/-
  Directories held in memory.

  * `Directory` maps places to files and folders; its root is always a folder;
  * `Directory.locate?` follows a path from the root, `Directory.file?` and `Directory.write?` read
    and write the file that a path leads to;
  * `Directory.shell` is the world of a command that sees nothing but a directory and keeps what it
    shows and prints.
-/
import SpriteScript.Command.Run

namespace SpriteScript

/-- A file or a folder. -/
inductive Node where
  | file (content : ByteArray)
  | folder

/-- Files and folders, by their places: the names on the way from the root. -/
structure Directory where
  nodes : List (List String × Node) := []
  deriving Inhabited

namespace Directory

/-- Whether a place is a folder. -/
def isFolder (d : Directory) (place : List String) : Bool :=
  place.isEmpty || match d.nodes.lookup place with
    | some .folder => true
    | _ => false

/-- Follows a name from a place, which has to be a folder. A name that is empty or a dot stays, two
dots lead back, and nothing leads out of the root. -/
def follow? (d : Directory) (place : List String) (name : String) : Option (List String) :=
  if !d.isFolder place then none
  else if name = "" ∨ name = "." then some place
  else if name = ".." then if place.isEmpty then none else some place.dropLast
  else some (place ++ [name])

/-- The place that a path leads to. A path that starts at a slash leads out of the directory. -/
def locate? (d : Directory) (path : String) : Option (List String) :=
  if path.startsWith "/" then none else (path.splitOn "/").foldlM d.follow? []

/-- The content of the file that a path leads to. -/
def file? (d : Directory) (path : String) : Option ByteArray :=
  match (d.locate? path).bind fun place => d.nodes.lookup place with
  | some (.file content) => some content
  | _ => none

/-- Writes the file that a path leads to; that is impossible where a folder is. -/
def write? (d : Directory) (path : String) (content : ByteArray) : Option Directory := do
  let place ← d.locate? path
  if d.isFolder place then none
  else some ⟨(place, .file content) :: d.nodes.filter fun e => e.1 != place⟩

/-- Adds a file or a folder, and the folders on the way to it. -/
def add (d : Directory) (path : String) (node : Node) : Directory :=
  let place := path.splitOn "/"
  let folders := (List.range' 1 (place.length - 1)).map fun n => (place.take n, Node.folder)
  ⟨(place, node) :: d.nodes ++ folders⟩

/-- A directory, and what a command showed and printed. -/
structure World where
  directory : Directory
  /-- The lines of progress, the latest first. -/
  progress : List String := []
  printed : String := ""

/-- The world of a command that sees nothing but a directory. It does not wait. -/
def shell : Shell (StateM World) where
  isFile path := return ((← get).directory.file? path).isSome
  read path := return match (← get).directory.file? path with
    | some content => .ok content
    | none => .error "no such file"
  write path text := modifyGet fun w =>
    match w.directory.write? path text.toUTF8 with
    | some directory => (true, { w with directory })
    | none => (false, w)
  progress line := modify fun w => { w with progress := line :: w.progress }
  print text := modify fun w => { w with printed := w.printed ++ text }
  wait _ := pure ()

end Directory

end SpriteScript

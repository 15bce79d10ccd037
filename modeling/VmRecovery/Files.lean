import VmRecovery.Fault

/-!
# Files

The tree of files that documents are kept in. A path is followed name by name from the root or
from the current directory; everything it passes through has to be a directory. Besides regular
files there are devices, which keep nothing of what is written to them.
-/

namespace VmRecovery

namespace Files

/-- A file that keeps nothing. -/
inductive Device where
  /-- It is empty and takes everything. -/
  | null
  /-- Reading it never ends, and it takes everything. -/
  | endless
  /-- Reading it never ends, and it has no room. -/
  | full
  deriving DecidableEq, Repr, Inhabited

/-- What a place in the tree holds. -/
inductive Node where
  /-- A directory, with whether new files can be created in it. -/
  | directory (isOpen : Bool)
  | regular (contents : ByteArray)
  | device (device : Device)
  deriving Inhabited

/-- A place in the tree: the names on the way to it from the root. -/
abbrev Place := List String

/-- The longest path, in bytes. -/
def maxPath : Nat := 4095

/-- The longest name in a path, in bytes. -/
def maxName : Nat := 255

/-- The parts of a path between its slashes; some may be empty. -/
def parts : List Char → List (List Char)
  | [] => [[]]
  | '/' :: rest => [] :: parts rest
  | c :: rest =>
      match parts rest with
      | [] => [[c]]
      | part :: others => (c :: part) :: others

/-- Whether a path can name anything at all. -/
def isPath (path : String) : Bool :=
  !path.isEmpty && path.utf8ByteSize ≤ maxPath && !path.toList.contains '\x00'

end Files

/-- A tree of files and the directory in it that relative paths start from. -/
structure Files where
  nodes : List (Files.Place × Files.Node) := [([], .directory false)]
  current : Files.Place := []
  deriving Inhabited

namespace Files

/-- What a place holds. -/
def node? (files : Files) (place : Place) : Option Node :=
  files.nodes.lookup place

/-- Whether a place is a directory. -/
def isDirectory (files : Files) (place : Place) : Bool :=
  match files.node? place with
  | some (.directory _) => true
  | _ => false

/-- Follows the names of a path. The place it leads to may hold nothing. Going up from the root
stays at the root. -/
def follow (files : Files) (place : Place) : List String → Option Place
  | [] => some place
  | name :: rest =>
      if !files.isDirectory place || name.utf8ByteSize > maxName then none
      else if name == "" || name == "." then files.follow place rest
      else if name == ".." then files.follow place.dropLast rest
      else files.follow (place ++ [name]) rest

/-- The place that a path names. -/
def place? (files : Files) (path : String) : Option Place :=
  if isPath path then
    let start := if path.toList.head? == some '/' then [] else files.current
    files.follow start ((parts path.toList).map String.ofList)
  else none

/-- The contents of a file. Directories have none, and neither has a device without an end. -/
def read? (files : Files) (path : String) : Option ByteArray := do
  match ← files.node? (← files.place? path) with
  | .regular contents => some contents
  | .device .null => some .empty
  | _ => none

/-- Puts a regular file at a place. -/
def put (files : Files) (place : Place) (contents : ByteArray) : Files :=
  { files with
    nodes := (place, .regular contents) :: files.nodes.filter fun entry => entry.1 != place }

/-- Whether a new file can be created at a place. -/
def isVacant (files : Files) (place : Place) : Bool :=
  match files.node? place, files.node? place.dropLast with
  | none, some (.directory isOpen) => isOpen
  | _, _ => false

/-- Replaces the contents of a file, which is created if there is none. -/
def write? (files : Files) (path : String) (contents : ByteArray) : Option Files := do
  let place ← files.place? path
  match files.node? place with
  | some (.regular _) => some (files.put place contents)
  | some (.device .full) => if contents.isEmpty then some files else none
  | some (.device _) => some files
  | some (.directory _) => none
  | none => if files.isVacant place then some (files.put place contents) else none

/-- The text of a file. -/
def text (files : Files) (path : String) : Except Fault String :=
  match (files.read? path).bind String.fromUTF8? with
  | some text => .ok text
  | none => .error (.unreadable path)

/-- Replaces the text of a file. -/
def store (files : Files) (path text : String) : Except Fault Files :=
  match files.write? path text.toUTF8 with
  | some after => .ok after
  | none => .error (.unwritable path)

/-- The directories that a tree usually has at its root, without the one for scratch files. -/
def usualDirectories : List String :=
  ["dev", "etc", "home", "opt", "proc", "root", "usr", "var"]

/-- The devices that a tree usually has. -/
def usualDevices : List (String × Device) :=
  [("null", .null), ("zero", .endless), ("random", .endless), ("urandom", .endless),
    ("full", .full)]

/-- The directory for scratch files, the only one in which files can be created. -/
def scratchDirectory : Place := ["tmp"]

/-- A tree with the usual directories and devices that holds no regular file. -/
def fresh : Files :=
  { nodes :=
      ([], .directory false) :: (scratchDirectory, .directory true) ::
        (usualDirectories.map fun name => ([name], .directory false)) ++
        usualDevices.map fun (name, device) => (["dev", name], .device device)
    current := scratchDirectory }

/-- A path for a scratch file in a fresh tree. -/
def scratch : String := "/tmp/scratch"

end Files

end VmRecovery

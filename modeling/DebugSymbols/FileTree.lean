import DebugSymbols.SymbolFile.Saving
import DebugSymbols.Text.Stream
/-!
# The files that a run sees

A path is followed name by name from the root or from the working directory.
Everything but its last name has to be a directory.  A file is created where
the path ends, emptied if it was there; a directory is never written to.  Any
location may refuse to be opened or created, break off reading, run out of room
or fail to be flushed.
-/

namespace DebugSymbols

/-- What stands at a location.  A device takes octets, at most so many if it is bounded, and keeps
none. -/
inductive FileNode where
  | file (content : List UInt8)
  | directory
  | device (room : Option Nat)
  deriving DecidableEq, Repr

/-- A directory opens, but cannot be read. -/
def FileNode.stream : FileNode → Text.Stream
  | .file content => ⟨content, false⟩
  | .directory => ⟨[], true⟩
  | .device _ => ⟨[], false⟩

/-- What may be done at a location: whether it opens, how many octets can be read before reading
breaks, whether it can be created, for how many octets there is room, and whether they can be
flushed. -/
structure Access where
  opens : Bool := true
  readable : Option Nat := none
  creates : Bool := true
  room : Option Nat := none
  flushes : Bool := true
  deriving DecidableEq, Repr

namespace Access

def stream (access : Access) (whole : Text.Stream) : Text.Stream :=
  match access.readable with
  | none => whole
  | some count => ⟨whole.octets.take count, true⟩

def sink (access : Access) : Sink :=
  { room := access.room, flushes := access.flushes }

end Access

abbrev Location := List String

/-- What stands where, where paths start that do not start at the root, and where not everything may
be done. -/
structure FileTree where
  nodes : List (Location × FileNode)
  workingDirectory : Location := []
  limits : List (Location × Access) := []
  deriving DecidableEq, Repr

namespace FileTree

def nameLimit : Nat := 255

def pathLimit : Nat := 4095

def node? (tree : FileTree) (location : Location) : Option FileNode :=
  (tree.nodes.find? (·.1 == location)).map (·.2)

def access (tree : FileTree) (location : Location) : Access :=
  (tree.limits.lookup location).getD {}

def put (tree : FileTree) (location : Location) (node : FileNode) : FileTree :=
  { tree with nodes := (location, node) :: tree.nodes.filter (·.1 != location) }

def enter (location : Location) (name : String) : Location :=
  if name = "" ∨ name = "." then location
  else if name = ".." then location.dropLast
  else location ++ [name]

/-- Follows names, each from a directory. -/
def follow (tree : FileTree) (location : Location) : List String → Option Location
  | [] => some location
  | name :: rest =>
      if tree.node? location = some .directory ∧ name.utf8ByteSize ≤ nameLimit then
        tree.follow (enter location name) rest
      else none

def names (path : String) : List String :=
  (path.toList.splitOn '/').map String.ofList

def locate (tree : FileTree) (path : String) : Option Location :=
  if path = "" ∨ path.utf8ByteSize > pathLimit ∨ '\x00' ∈ path.toList then none
  else
    let start := if path.toList.head? = some '/' then [] else tree.workingDirectory
    tree.follow start (names path)

def look? (tree : FileTree) (path : String) : Option FileNode :=
  (tree.locate path).bind tree.node?

def open? (tree : FileTree) (path : String) : Option Text.Stream :=
  (tree.locate path).bind fun location =>
    if (tree.access location).opens then
      (tree.node? location).map fun node => (tree.access location).stream node.stream
    else none

def content? (tree : FileTree) (path : String) : Option (List UInt8) :=
  (tree.look? path).bind fun node =>
    if node.stream.broken then none else some node.stream.octets

def create? (tree : FileTree) (path : String) : Option Sink :=
  (tree.locate path).bind fun location =>
    let access := tree.access location
    if access.creates then
      match tree.node? location with
      | some .directory => none
      | some (.device room) => some { access.sink with room := room }
      | some (.file _) | none => some access.sink
    else none

/-- The tree after a place created for a path has taken octets. -/
def store (tree : FileTree) (path : String) (place : Sink) : FileTree :=
  match tree.locate path with
  | none => tree
  | some location =>
      match tree.node? location with
      | some .directory | some (.device _) => tree
      | some (.file _) | none => tree.put location (.file place.taken)

def save (tree : FileTree) (recorder : Recorder) : SaveResult × Recorder × FileTree :=
  let (result, after) := recorder.save (recorder.output.bind tree.create?)
  match recorder.output, result.place with
  | some path, some place => (result, after, tree.store path place)
  | _, _ => (result, after, tree)

end FileTree

end DebugSymbols

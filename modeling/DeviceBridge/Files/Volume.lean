import DeviceBridge.Files.Path

/-
  Trees of files held in memory. A volume maps paths to directories and files, in the order of the
  paths; the root is the empty path. Writing a file makes the directories on the way to it, and a
  file in the way stops it.
-/

namespace DeviceBridge

abbrev Bytes := List UInt8

/-- Why a file operation failed, and at which path. -/
inductive FileError where
  | operation (path text : String)
  | invalidPath (path : String)
  | alreadyMounted (location : String)
  | accessDenied (path : String)
deriving Repr, DecidableEq

namespace FileError

/-- Paths are shown from the root. -/
def message : FileError → String
  | operation path text => "/" ++ path ++ ": " ++ text
  | invalidPath path => "/" ++ path ++ ": Invalid Path"
  | alreadyMounted location => "/" ++ location ++ ": Already mounted"
  | accessDenied path => "/" ++ path ++ ": Access denied"

end FileError

inductive Node where
  | directory
  | file (contents : Bytes)
deriving Repr, DecidableEq

structure Volume where
  nodes : List (String × Node)
deriving Repr, DecidableEq

namespace Volume

def empty : Volume := ⟨[("", .directory)]⟩

instance : Inhabited Volume := ⟨empty⟩

/-! ## Nodes -/

def node? (v : Volume) (path : String) : Option Node :=
  (v.nodes.find? fun n => n.1 == path).map (·.2)

/-- Put a node at its place in the order of paths, in the stead of one that is there. -/
def insertNode (path : String) (node : Node) : List (String × Node) → List (String × Node)
  | [] => [(path, node)]
  | (p, n) :: rest =>
    if p = path then (path, node) :: rest
    else if path < p then (path, node) :: (p, n) :: rest
    else (p, n) :: insertNode path node rest

def insert (v : Volume) (path : String) (node : Node) : Volume := ⟨insertNode path node v.nodes⟩

/-- Make the missing ones of some directories, in order. -/
def makeAll (v : Volume) : List String → Except FileError Unit × Volume
  | [] => (.ok (), v)
  | d :: ds =>
    match v.node? d with
    | some (.file _) => (.error (.operation d "File exists"), v)
    | some .directory => makeAll v ds
    | none => makeAll (v.insert d .directory) ds

/-! ## Reading -/

def has (v : Volume) (path : String) : Bool := (v.node? path).isSome

def isDirectory (v : Volume) (path : String) : Bool := v.node? path == some .directory

/-- The names directly inside a directory. -/
def list (v : Volume) (path : String) : Except FileError (List String) :=
  if v.isDirectory path then
    .ok ((v.nodes.filter fun n => n.1 ≠ "" ∧ n.1 ≠ path ∧ Path.parent n.1 = path).map
      fun n => Path.name n.1)
  else .error (.operation path "Not a directory")

def read (v : Volume) (path : String) : Except FileError Bytes :=
  match v.node? path with
  | some (.file contents) => .ok contents
  | _ => .error (.operation path "No such file")

/-- The length of a file. Directories have none. -/
def size (v : Volume) (path : String) : Except FileError Nat :=
  match v.node? path with
  | some (.file contents) => .ok contents.length
  | some .directory => .ok 0
  | none => .error (.operation path "No such file")

/-! ## Changing -/

def makeDirectory (v : Volume) (path : String) : Except FileError Unit × Volume :=
  match v.node? path with
  | some .directory => (.ok (), v)
  | some (.file _) => (.error (.operation path "File exists"), v)
  | none =>
    match v.makeAll (Path.ancestors path) with
    | (.ok (), v) => (.ok (), v.insert path .directory)
    | failed => failed

/-- Create a file, or replace one. -/
def write (v : Volume) (path : String) (contents : Bytes) : Except FileError Unit × Volume :=
  if v.isDirectory path then (.error (.operation path "Cannot write to directory"), v)
  else match v.makeAll (Path.ancestors path) with
    | (.ok (), v) => (.ok (), v.insert path (.file contents))
    | failed => failed

/-- Remove a path and all below it. The root stays. -/
def delete (v : Volume) (path : String) : Except FileError Unit × Volume :=
  if path.isEmpty then (.error (.accessDenied ""), v)
  else
    let below := path.toList ++ ['/']
    (.ok (), ⟨v.nodes.filter fun n => n.1 ≠ path ∧ ¬ below.isPrefixOf n.1.toList⟩)

/-- Add some files to a volume. Those that cannot be added are left out and reported. -/
def addFiles (v : Volume) : List (String × Bytes) → List (String × FileError) × Volume
  | [] => ([], v)
  | (path, contents) :: rest =>
    match v.write path contents with
    | (.ok (), v) => addFiles v rest
    | (.error e, v) =>
      let (failed, v) := addFiles v rest
      ((path, e) :: failed, v)

end Volume

end DeviceBridge

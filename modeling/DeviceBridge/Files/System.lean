import DeviceBridge.Files.Mount
import DeviceBridge.Text.Quoted

/-
  The file system of a computer: mounts in the order in which they were made, each at its own
  normalised location, and the volumes that mounts and disks are made of. A path is served by the
  deepest mount that covers it (`FileSystem.resolve`).
-/

namespace DeviceBridge

/-- What is mounted: any tree to read from, or a volume that can also be written. -/
inductive Backing where
  | readOnly (tree : Mount)
  | writable (volume : VolumeId)

namespace Backing

def tree : Backing → Mount
  | readOnly tree => tree
  | writable volume => .volume volume

end Backing

structure MountPoint where
  label : String
  location : String
  backing : Backing

structure FileSystem where
  mounts : List MountPoint
  volumes : List Volume

namespace FileSystem

def empty : FileSystem := ⟨[], []⟩

/-! ## Volumes -/

/-- Take in a new volume. -/
def addVolume (fs : FileSystem) (v : Volume) : VolumeId × FileSystem :=
  (fs.volumes.length, { fs with volumes := fs.volumes ++ [v] })

def setVolume (fs : FileSystem) (id : VolumeId) (v : Volume) : FileSystem :=
  { fs with volumes := fs.volumes.set id v }

def volume (fs : FileSystem) (id : VolumeId) : Volume := Mount.volumeAt fs.volumes id

/-! ## The mount table -/

def locations (fs : FileSystem) : List String := fs.mounts.map (·.location)

def mountAt (fs : FileSystem) (label location : String) (backing : Backing) :
    Except FileError Unit × FileSystem :=
  let location := Path.normalize location
  if location ∈ fs.locations then (.error (.alreadyMounted location), fs)
  else (.ok (), { fs with mounts := fs.mounts ++ [⟨label, location, backing⟩] })

/-- Remove the mount at a location, and whether there was one. -/
def unmount (fs : FileSystem) (location : String) : Bool × FileSystem :=
  let location := Path.normalize location
  (location ∈ fs.locations, { fs with mounts := fs.mounts.filter (·.location ≠ location) })

/-- Whether a mount sits exactly at the location. -/
def contains (fs : FileSystem) (location : String) : Bool := Path.normalize location ∈ fs.locations

/-! ## Resolution -/

/-- The longer of two locations, the later one if they are as long. -/
def deeper (best : Option MountPoint) (m : MountPoint) : Option MountPoint :=
  match best with
  | none => some m
  | some b => if b.location.utf8ByteSize ≤ m.location.utf8ByteSize then some m else some b

/-- The deepest mount over a normalised path. -/
def resolve (fs : FileSystem) (path : String) : Option MountPoint :=
  (fs.mounts.filter fun m => Path.covers m.location path).foldl deeper none

def labelOf (fs : FileSystem) (path : String) : Option String :=
  (fs.resolve (Path.normalize path)).map (·.label)

/-! ## Reading -/

def has (fs : FileSystem) (path : String) : Bool :=
  let path := Path.normalize path
  match fs.resolve path with
  | some m => m.backing.tree.has fs.volumes (Path.relative m.location path)
  | none => false

def isDirectory (fs : FileSystem) (path : String) : Bool :=
  let path := Path.normalize path
  match fs.resolve path with
  | some m => m.backing.tree.isDirectory fs.volumes (Path.relative m.location path)
  | none => false

/-- The names of the mounts directly below a normalised path. -/
def mountsBelow (fs : FileSystem) (path : String) : List String :=
  (fs.locations.filter fun l => l ≠ "" ∧ Path.parent l = path).map Path.name

/-- The entries of a directory, and the mounts directly below it. -/
def list (fs : FileSystem) (path : String) : Except FileError (List String) :=
  let path := Path.normalize path
  match fs.resolve path with
  | none => .error (.invalidPath path)
  | some m =>
    match m.backing.tree.list fs.volumes (Path.relative m.location path) with
    | .ok names => .ok (mergeNames names (fs.mountsBelow path))
    | .error e => .error e

def read (fs : FileSystem) (path : String) : Except FileError Bytes :=
  let path := Path.normalize path
  match fs.resolve path with
  | none => .error (.invalidPath path)
  | some m => m.backing.tree.read fs.volumes (Path.relative m.location path)

/-! ## Writing -/

def write (fs : FileSystem) (path : String) (contents : Bytes) :
    Except FileError Unit × FileSystem :=
  let path := Path.normalize path
  match fs.resolve path with
  | none => (.error (.invalidPath path), fs)
  | some m =>
    match m.backing with
    | .readOnly _ => (.error (.accessDenied path), fs)
    | .writable id =>
      let (answer, v) := (fs.volume id).write (Path.relative m.location path) contents
      (answer, fs.setVolume id v)

def diagnostic (fs : FileSystem) : String :=
  Text.record "FileSystem" [("mounts", Text.bracketed (fs.locations.map Text.quoted))]

end FileSystem

end DeviceBridge

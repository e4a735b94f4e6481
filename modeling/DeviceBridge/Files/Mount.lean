import DeviceBridge.Files.Volume

/-
  Trees that can be mounted: a volume, several trees seen as one, or a tree that answers on its own.
  Of several layers the later ones shadow the earlier ones, and directory listings merge every layer
  that has the directory.
-/

namespace DeviceBridge

/-- A volume among the volumes of a file system, by number. -/
abbrev VolumeId := Nat

/-- A tree whose answers are given by functions. -/
structure Oracle where
  has : String → Bool
  isDirectory : String → Bool
  list : String → Except FileError (List String)
  read : String → Except FileError Bytes
  size : String → Except FileError Nat

inductive Mount where
  | volume (id : VolumeId)
  | layered (layers : List Mount)
  | oracle (tree : Oracle)

/-- The names of a listing, each once, in order of first appearance. -/
def mergeNames (seen : List String) : List String → List String
  | [] => seen
  | n :: ns => mergeNames (if n ∈ seen then seen else seen ++ [n]) ns

namespace Mount

/-- A volume by its number. -/
def volumeAt (volumes : List Volume) (id : VolumeId) : Volume := (volumes[id]?).getD .empty

mutual

def has (volumes : List Volume) : Mount → String → Bool
  | volume id, path => (volumeAt volumes id).has path
  | layered layers, path => anyHas volumes layers path
  | oracle tree, path => tree.has path

def anyHas (volumes : List Volume) : List Mount → String → Bool
  | [], _ => false
  | m :: above, path => anyHas volumes above path || has volumes m path

end

mutual

def isDirectory (volumes : List Volume) : Mount → String → Bool
  | volume id, path => (volumeAt volumes id).isDirectory path
  | layered layers, path => anyIsDirectory volumes layers path
  | oracle tree, path => tree.isDirectory path

def anyIsDirectory (volumes : List Volume) : List Mount → String → Bool
  | [], _ => false
  | m :: above, path => anyIsDirectory volumes above path || isDirectory volumes m path

end

mutual

def list (volumes : List Volume) : Mount → String → Except FileError (List String)
  | volume id, path => (volumeAt volumes id).list path
  | layered layers, path =>
    match listLayers volumes layers path with
    | .ok (some names) => .ok names
    | .ok none => .error (.operation path "Not a directory")
    | .error e => .error e
  | oracle tree, path => tree.list path

/-- The merged listing of the layers that have the directory, from the topmost; none if no layer
has it. -/
def listLayers (volumes : List Volume) :
    List Mount → String → Except FileError (Option (List String))
  | [], _ => .ok none
  | m :: above, path =>
    match listLayers volumes above path with
    | .error e => .error e
    | .ok found =>
      if has volumes m path && isDirectory volumes m path then
        match list volumes m path with
        | .ok names => .ok (some (mergeNames (found.getD []) names))
        | .error e => .error e
      else .ok found

end

mutual

def read (volumes : List Volume) : Mount → String → Except FileError Bytes
  | volume id, path => (volumeAt volumes id).read path
  | layered layers, path =>
    (readLayers volumes layers path).getD (.error (.operation path "No such file"))
  | oracle tree, path => tree.read path

/-- The answer of the topmost layer that has a file at the path. -/
def readLayers (volumes : List Volume) : List Mount → String → Option (Except FileError Bytes)
  | [], _ => none
  | m :: above, path =>
    match readLayers volumes above path with
    | some answer => some answer
    | none =>
      if has volumes m path && !isDirectory volumes m path then some (read volumes m path) else none

end

mutual

def size (volumes : List Volume) : Mount → String → Except FileError Nat
  | volume id, path => (volumeAt volumes id).size path
  | layered layers, path =>
    (sizeLayers volumes layers path).getD (.error (.operation path "No such file"))
  | oracle tree, path => tree.size path

/-- The answer of the topmost layer that has the path, be it a file or a directory. -/
def sizeLayers (volumes : List Volume) : List Mount → String → Option (Except FileError Nat)
  | [], _ => none
  | m :: above, path =>
    match sizeLayers volumes above path with
    | some answer => some answer
    | none => if has volumes m path then some (size volumes m path) else none

end

def diagnosticLayers (layers : Nat) : String :=
  "ComboMount \x7b parts: " ++ toString layers ++ " \x7d"

end Mount

end DeviceBridge

/-
  Paths as text. `Path.normalize` drops separators at both ends, empty and `.` components, and
  resolves `..` without leaving the root; what is left is a `/`-join of plain components. The work
  is done on lists of characters, and the functions on strings wrap it.
-/

namespace DeviceBridge.Path

/-! ## Components -/

/-- Both slashes separate. -/
def isSeparator (c : Char) : Bool := c == '/' || c == '\\'

/-- The pieces between separators, empty ones included. -/
def pieces : List Char → List (List Char)
  | [] => [[]]
  | c :: cs =>
    if isSeparator c then [] :: pieces cs
    else match pieces cs with
      | [] => [[c]]
      | p :: ps => (c :: p) :: ps

/-- Walk into one piece. The stack holds the components so far, the last one on top. -/
def walk (stack : List (List Char)) (piece : List Char) : List (List Char) :=
  if piece = [] ∨ piece = ['.'] then stack
  else if piece = ['.', '.'] then stack.tail
  else piece :: stack

/-- The components that a path leads through, from the root. -/
def components (cs : List Char) : List (List Char) := ((pieces cs).foldl walk []).reverse

def join : List (List Char) → List Char
  | [] => []
  | [p] => p
  | p :: ps => p ++ '/' :: join ps

def normalizeChars (cs : List Char) : List Char := join (components cs)

def normalize (path : String) : String := String.ofList (normalizeChars path.toList)

/-- A component that normalisation keeps as it is. -/
def IsPlain (piece : List Char) : Prop :=
  piece ≠ [] ∧ piece ≠ ['.'] ∧ piece ≠ ['.', '.'] ∧ ∀ c ∈ piece, isSeparator c = false

theorem pieces_ne_nil (cs : List Char) : pieces cs ≠ [] := by
  cases cs with
  | nil => simp [pieces]
  | cons c cs =>
    simp only [pieces]
    split
    · simp
    · split <;> simp

/-! ## Parents and names -/

/-- What stands before the last `/`, nothing if there is none. -/
def parentChars (cs : List Char) : List Char :=
  ((cs.reverse.dropWhile (· != '/')).drop 1).reverse

/-- What stands behind the last `/`, everything if there is none. -/
def nameChars (cs : List Char) : List Char := (cs.reverse.takeWhile (· != '/')).reverse

def parent (path : String) : String := String.ofList (parentChars path.toList)

def name (path : String) : String := String.ofList (nameChars path.toList)

/-- The non-empty parts between slashes. -/
def parts : List Char → List (List Char)
  | [] => []
  | c :: cs =>
    if c = '/' then parts cs
    else match cs with
      | [] => [[c]]
      | d :: _ =>
        if d = '/' then [c] :: parts cs
        else match parts cs with
          | [] => [[c]]
          | p :: ps => (c :: p) :: ps

/-- Every prefix of a list of parts, joined, the shortest first. -/
def prefixes (before : List (List Char)) : List (List Char) → List (List Char)
  | [] => []
  | p :: ps => join (before ++ [p]) :: prefixes (before ++ [p]) ps

/-- The directories on the way to a path, from the root down. -/
def ancestors (path : String) : List String :=
  (prefixes [] (parts (parentChars path.toList))).map String.ofList

/-! ## One path inside another -/

/-- The location is the root, or the path itself, or a directory above it. -/
def covers (location path : String) : Bool :=
  location.isEmpty || path == location || (location.toList ++ ['/']).isPrefixOf path.toList

/-- The path as seen from a location that covers it. -/
def relative (location path : String) : String :=
  String.ofList ((path.toList.drop location.toList.length).dropWhile (· == '/'))

end DeviceBridge.Path

import DeviceBridge.Json.Reader
import DeviceBridge.Ron.Basic
import DeviceBridge.Text.Identifier

/-
  The parts of RON text that say nothing by themselves, and its words. Blanks and comments may stand
  between any two parts (`skip`). A word is an identifier, or a raw one behind `r#`, which may hold
  more characters.
-/

namespace DeviceBridge.Ron

open Json (Reads afterWord)

/-! ## Blanks and comments -/

def isBlank (c : Char) : Bool :=
  [0x20, 0x09, 0x0A, 0x0B, 0x0C, 0x0D, 0x85, 0x200E, 0x200F, 0x2028, 0x2029].contains c.toNat

/-- Where a place between two parts of a text is. Block comments nest; the level counts those
around. -/
inductive Gap where
  | blanks
  | line
  | block (level : Nat)
deriving Repr, DecidableEq

/-- The text behind the blanks and comments that follow a gap. A slash begins a comment or has no
meaning, and a block comment has to end. -/
def skipFrom : Gap → List Char → Option (List Char)
  | .blanks, [] => some []
  | .blanks, '/' :: '/' :: cs => skipFrom .line cs
  | .blanks, '/' :: '*' :: cs => skipFrom (.block 0) cs
  | .blanks, '/' :: _ => none
  | .blanks, c :: cs => if isBlank c then skipFrom .blanks cs else some (c :: cs)
  | .line, [] => some []
  | .line, c :: cs => skipFrom (if c == '\n' then .blanks else .line) cs
  | .block _, [] => none
  | .block level, '/' :: '*' :: cs => skipFrom (.block (level + 1)) cs
  | .block 0, '*' :: '/' :: cs => skipFrom .blanks cs
  | .block (level + 1), '*' :: '/' :: cs => skipFrom (.block level) cs
  | .block level, _ :: cs => skipFrom (.block level) cs

def skip (cs : List Char) : Option (List Char) := skipFrom .blanks cs

/-- The text behind a comma and the blanks around it, and whether there was a comma. -/
def comma (cs : List Char) : Option (Bool × List Char) := do
  match ← skip cs with
  | ',' :: cs => return (true, ← skip cs)
  | cs => return (false, cs)

/-- The text behind some marks, each with blanks behind it. -/
def afterMarks : List String → List Char → Option (List Char)
  | [], cs => some cs
  | mark :: marks, cs =>
    match (afterWord mark cs).bind skip with
    | some cs => afterMarks marks cs
    | none => none

/-! ## Words -/

def startsWord (c : Char) : Bool := c == '_' || Text.startsIdentifier c

def continuesWord (c : Char) : Bool := Text.continuesIdentifier c

def continuesRawWord (c : Char) : Bool := continuesWord c || c == '.' || c == '+' || c == '-'

/-- A word goes on at the front of the text. -/
def wordGoesOn (cs : List Char) : Bool := (cs.head?.map continuesWord).getD false

/-- The text behind a word that stands for itself. -/
def afterKeyword (word : String) (cs : List Char) : Option (List Char) :=
  match afterWord word cs with
  | some cs => if wordGoesOn cs then none else some cs
  | none => none

/-- What the first of some keywords that stands at the front means, and the text behind it. -/
def keyword {α : Type} (meanings : List (String × α)) (cs : List Char) : Option (α × List Char) :=
  meanings.findSome? fun (name, a) => (afterKeyword name cs).map fun cs => (a, cs)

/-- A string literal starts here rather than a word. -/
def startsLiteral (cs : List Char) : Bool :=
  ["b\"", "b'", "br#", "br\"", "r\"", "r#\"", "r##"].any fun s => s.toList.isPrefixOf cs

def readWord : Reads String
  | cs =>
    if startsLiteral cs then none
    else match cs with
      | 'r' :: '#' :: cs =>
        let raw := cs.takeWhile continuesRawWord
        if raw.isEmpty then none else some (String.ofList raw, cs.dropWhile continuesRawWord)
      | c :: cs =>
        if startsWord c then
          some (String.ofList (c :: cs.takeWhile continuesWord), cs.dropWhile continuesWord)
        else none
      | [] => none

/-- The name of a field: a word that could not have gone on as a raw one. -/
def fieldName (cs : List Char) : Option (String × List Char) :=
  match readWord cs with
  | some (name, rest) =>
    if (rest.head?.map continuesRawWord).getD false then none else some (name, rest)
  | none => none

end DeviceBridge.Ron

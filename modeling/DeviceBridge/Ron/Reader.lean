import DeviceBridge.Ron.Number

/-
  Reading RON text. A document may begin with heads, which turn on what is off otherwise
  (`Extension`) or say what the document describes. Items, entries and fields may end in a comma. A
  document may not nest deeper than `deepest`.
-/

namespace DeviceBridge.Ron

open Json (Reads afterWord)

/-! ## Heads -/

/-- What a head can turn on. -/
inductive Extension where
  /-- A record around one value may leave out its parentheses; no document here has one. -/
  | bareWrappers
  /-- What is present need not stand in parentheses. -/
  | barePresent
  /-- A record or group that is present may leave out its own parentheses. -/
  | bareVariants
  /-- The outermost record has its name in front. -/
  | namedRecords
deriving Repr, DecidableEq

namespace Extension

def name : Extension → String
  | bareWrappers => "unwrap_newtypes"
  | barePresent => "implicit_some"
  | bareVariants => "unwrap_variant_newtypes"
  | namedRecords => "explicit_struct_names"

def ofName? (name : String) : Option Extension :=
  [bareWrappers, barePresent, bareVariants, namedRecords].find? fun e => e.name == name

end Extension

/-- The names in a head. The fuel bounds their number. -/
def readExtensions : Nat → List Extension → Reads (List Extension)
  | 0, _, _ => none
  | fuel + 1, read, cs => do
    let (name, cs) ← fieldName cs
    let e ← Extension.ofName? name
    let (more, cs) ← comma cs
    if more && (cs.head?.map startsWord).getD false then readExtensions fuel (e :: read) cs
    else return (e :: read, cs)

/-- What a head names about its document. The names have no bearing on what is read. -/
def subjects : List String := ["type", "schema"]

/-- A head behind its opening bracket, up to the closing one. -/
def readHead (read : List Extension) : Reads (List Extension)
  | cs =>
    match afterMarks ["enable", "("] cs with
    | some cs => do
      let (extensions, cs) ← readExtensions (cs.length + 1) read cs
      return (extensions, ← afterMarks [")"] cs)
    | none => do
      let cs ← afterMarks ["="] (← skip (← subjects.findSome? (afterKeyword · cs)))
      let (_, cs) ← readString cs
      return (read, ← skip cs)

/-- The heads of a document, one behind the other. The fuel bounds their number. -/
def readHeads : Nat → List Extension → Reads (List Extension)
  | 0, _, _ => none
  | fuel + 1, read, cs =>
    if cs.head? != some '#' then some (read, cs)
    else do
      let cs ← afterMarks ["#", "!", "["] cs
      let (extensions, cs) ← readHead read cs
      readHeads fuel extensions (← afterMarks ["]"] cs)

/-! ## Documents -/

/-- Parentheses hold named fields: a word and a colon come first. -/
def holdsFields (cs : List Char) : Bool :=
  match readWord cs with
  | some (_, cs) =>
    match skip cs with
    | some (':' :: _) => true
    | _ => false
  | none => false

/-- Words that stand for values, apart from numbers. -/
def constants : List (String × Ron) :=
  [("true", bool true), ("false", bool false), ("None", absent)]

/-- What parentheses stand for that hold one value, or the inside of a record or group. -/
def unwrapped : Ron → Ron
  | group none [] => unit
  | group none [r] => r
  | other => other

mutual

/-- A document under some extensions. The fuel bounds how many parts are read one inside or behind
the other. -/
def readValue (on : List Extension) : Nat → Reads Ron
  | 0, _ => none
  | fuel + 1, cs =>
    match keyword constants cs, afterKeyword "Some" cs with
    | some found, _ => some found
    | none, some cs =>
      match skip cs with
      | some ('(' :: cs) => readPresent on fuel cs
      | some cs =>
        if on.contains .barePresent then
          (readValue on fuel cs).map fun (r, cs) => (present r, cs)
        else none
      | none => none
    | none, none =>
      if startsNumber cs then readNumeric cs
      else match readWord cs with
        | some (name, cs) =>
          match skip cs with
          | some ('(' :: cs) => readParentheses on fuel (some name) cs
          | some cs => some (Ron.word name, cs)
          | none => none
        | none =>
          match cs with
          | '(' :: ')' :: cs => some (Ron.unit, cs)
          | '(' :: cs => readParentheses on fuel none cs
          | '[' :: cs => (readItems on fuel ']' [] cs).map fun (items, cs) => (list items, cs)
          | '\x7b' :: cs => (readEntries on fuel [] cs).map fun (entries, cs) => (map entries, cs)
          | cs => readLiteral cs

/-- What is present, behind its opening parenthesis. -/
def readPresent (on : List Extension) : Nat → Reads Ron
  | 0, _ => none
  | fuel + 1, cs =>
    if on.contains .bareVariants then
      (readParentheses on fuel none cs).map fun (r, cs) => (present (unwrapped r), cs)
    else match skip cs with
      | none => none
      | some cs =>
        match readValue on fuel cs with
        | none => none
        | some (r, cs) =>
          match comma cs with
          | some (_, ')' :: cs) => some (present r, cs)
          | _ => none

/-- What parentheses hold: named fields, or items. -/
def readParentheses (on : List Extension) : Nat → Option String → Reads Ron
  | 0, _, _ => none
  | fuel + 1, name, cs =>
    match skip cs with
    | none => none
    | some cs =>
      if holdsFields cs then
        (readFields on fuel [] cs).map fun (fields, cs) => (record name fields, cs)
      else (readItems on fuel ')' [] cs).map fun (items, cs) => (group name items, cs)

/-- Items up to a closing bracket. -/
def readItems (on : List Extension) : Nat → Char → List Ron → Reads (List Ron)
  | 0, _, _, _ => none
  | fuel + 1, closing, read, cs =>
    match skip cs with
    | none => none
    | some cs =>
      if cs.head? = some closing then some (read.reverse, cs.drop 1)
      else match readValue on fuel cs with
        | none => none
        | some (r, cs) =>
          match comma cs with
          | some (true, cs) => readItems on fuel closing (r :: read) cs
          | some (false, cs) =>
            if cs.head? = some closing then some ((r :: read).reverse, cs.drop 1) else none
          | none => none

def readFields (on : List Extension) : Nat → List (String × Ron) → Reads (List (String × Ron))
  | 0, _, _ => none
  | fuel + 1, read, cs =>
    match skip cs with
    | none => none
    | some (')' :: cs) => some (read.reverse, cs)
    | some cs =>
      match fieldName cs with
      | none => none
      | some (name, cs) =>
        match skip cs with
        | some (':' :: cs) =>
          match skip cs with
          | none => none
          | some cs =>
            match readValue on fuel cs with
            | none => none
            | some (r, cs) =>
              match comma cs with
              | some (true, cs) => readFields on fuel ((name, r) :: read) cs
              | some (false, ')' :: cs) => some (((name, r) :: read).reverse, cs)
              | _ => none
        | _ => none

def readEntries (on : List Extension) : Nat → List (Ron × Ron) → Reads (List (Ron × Ron))
  | 0, _, _ => none
  | fuel + 1, read, cs =>
    match skip cs with
    | none => none
    | some ('\x7d' :: cs) => some (read.reverse, cs)
    | some cs =>
      match readValue on fuel cs with
      | none => none
      | some (k, cs) =>
        match skip cs with
        | some (':' :: cs) =>
          match skip cs with
          | none => none
          | some cs =>
            match readValue on fuel cs with
            | none => none
            | some (v, cs) =>
              match comma cs with
              | some (true, cs) => readEntries on fuel ((k, v) :: read) cs
              | some (false, '\x7d' :: cs) => some (((k, v) :: read).reverse, cs)
              | _ => none
        | _ => none

end

/-- How deep a document may nest. -/
def deepest : Nat := 128

/-- The document that a text holds, with nothing but blanks around it. -/
def parse? (text : String) : Option Ron := do
  let cs ← skip text.toList
  let (extensions, cs) ← readHeads (cs.length + 1) [] cs
  let (r, cs) ← readValue extensions (2 * text.length + 2) cs
  if !(← skip cs).isEmpty || deepest < r.depth
    || (extensions.contains .namedRecords && !r.isNamed) then none
  else return r

end DeviceBridge.Ron

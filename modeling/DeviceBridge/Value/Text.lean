import DeviceBridge.Json.Basic
import DeviceBridge.Value.Basic

/-
  The three texts of a value: what scripts and reports show (`Value.display`), what diagnostics show
  (`Value.diagnostic`), and JSON (`Value.json`).
-/

namespace DeviceBridge

/-- Numbers as reports show them: every digit written out, no exponent. -/
def reportNumber : Decimal.Style where
  plain := none
  pointZero := false
  signedExponent := false
  tie := .up
  nan := "NaN"
  infinite := "inf"
  signedInfinite := true

/-- Numbers as diagnostics show them: always recognisable as floating-point. -/
def diagnosticNumber : Decimal.Style where
  plain := some (-4, 16)
  pointZero := true
  signedExponent := false
  tie := .up
  nan := "NaN"
  infinite := "inf"
  signedInfinite := true

namespace Key

def display : Key → String
  | bool b => boolText b
  | int i => toString i.toInt
  | string s => s

def diagnostic : Key → String
  | bool b => "Bool(" ++ boolText b ++ ")"
  | int i => "Int(" ++ toString i.toInt ++ ")"
  | string s => "String(" ++ Text.quoted s ++ ")"

end Key

namespace Value

mutual

/-- Strings stand between quotes without escapes, tables as `key = value` between braces. -/
def display : Value → String
  | nil => "nil"
  | bool b => boolText b
  | int i => toString i.toInt
  | float f => reportNumber.write f
  | string s => "\"" ++ s ++ "\""
  | table es => "\x7b" ++ ", ".intercalate (displayEntries es) ++ "\x7d"

def displayEntries : List (Key × Value) → List String
  | [] => []
  | (k, v) :: es => (k.display ++ " = " ++ display v) :: displayEntries es

end

mutual

/-- Every value is shown with the name of its kind. -/
def diagnostic : Value → String
  | nil => "Nil"
  | bool b => "Bool(" ++ boolText b ++ ")"
  | int i => "Int(" ++ toString i.toInt ++ ")"
  | float f => "Float(" ++ diagnosticNumber.write f ++ ")"
  | string s => "String(" ++ Text.quoted s ++ ")"
  | table es => "Table(\x7b" ++ ", ".intercalate (diagnosticEntries es) ++ "\x7d)"

def diagnosticEntries : List (Key × Value) → List String
  | [] => []
  | (k, v) :: es => (k.diagnostic ++ ": " ++ diagnostic v) :: diagnosticEntries es

end

mutual

/-- Tables become objects, whatever their keys, and every key becomes its text. -/
def toJson : Value → Json
  | nil => .null
  | bool b => .bool b
  | int i => .int i.toInt
  | float f => .float f
  | string s => .string s
  | table es => .object (jsonMembers es)

def jsonMembers : List (Key × Value) → List (String × Json)
  | [] => []
  | (k, v) :: es => (k.display, toJson v) :: jsonMembers es

end

def json (v : Value) : String := v.toJson.compact

def diagnosticList (values : List Value) : String := Text.bracketed (values.map diagnostic)

end Value

end DeviceBridge

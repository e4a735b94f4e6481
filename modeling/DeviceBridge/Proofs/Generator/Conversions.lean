import DeviceBridge.Proofs.Generator.Accessors

/-
  The three ways to one argument. A value is converted by an accessor that insists on it, by one
  that may find none, and by the binder of an optional parameter, which goes its own way about it.
  What all three come to is what the type of parameter takes (`Conversion.Sound`): so they agree on
  every value, and differ only in what they make of a value that is missing or does not fit
  (`conversions_agree`).
-/

namespace DeviceBridge

/-- A conversion as it is offered: two accessors, a type of parameter with the binder of an optional
one, and what a converted value is bound as. -/
structure Conversion (α : Type) where
  strict : Arguments → Nat → Except Failure α
  optional : Arguments → Nat → Except Failure (Option α)
  param : ParamType
  binder : Nat → Binder
  bound : α → BoundArg

namespace Conversion

/-- The conversion to a scalar. -/
def ofScalar {α : Type} (s : Scalar) (param : ParamType)
    (strict : Arguments → Nat → Except Failure α)
    (optional : Arguments → Nat → Except Failure (Option α)) (bound : α → BoundArg) :
    Conversion α :=
  ⟨strict, optional, param, (.optional · s), bound⟩

def string : Conversion String :=
  ofScalar .string .string Arguments.string Arguments.string? .string

def number : Conversion Float :=
  ofScalar .number .number Arguments.number Arguments.number? .number

def int : Conversion Int64 := ofScalar .int .int Arguments.int Arguments.int? .int

def bool : Conversion Bool := ofScalar .bool .bool Arguments.bool Arguments.bool? .bool

def table : Conversion (List (Key × Value)) :=
  ofScalar .table .table Arguments.table Arguments.table? .table

def constant (choice : Choice) : Conversion Nat :=
  ⟨(·.constant · choice), (·.constant? · choice), .constant choice, (.optionalConstant · choice),
    .constant⟩

variable {α : Type} {c : Conversion α} {args : Arguments} {index : Nat}

/-! ## Agreement -/

/-- What an optional parameter is bound as where an argument has to be there: the converted value if
there is one. -/
def boundOr (c : Conversion α) : Except Failure α → BoundArg
  | .ok a => c.bound a
  | .error _ => .absent

/-- The three ways agree at an index, and the binder is the one that an optional parameter gets
there. -/
structure Agrees (c : Conversion α) (args : Arguments) (index : Nat) : Prop where
  made : ∀ contexts,
    Binder.ofParam contexts index (.optional c.param) = some (c.binder index, index + 1)
  missing : args.get index = .nil →
    c.strict args index = .error (.ofCause (.argumentType (index + 1) c.param.wanted "nil")) ∧
    c.optional args index = .ok none ∧
    ∀ object values, (c.binder index).bind object values args = .ok .absent
  present : args.get index ≠ .nil →
    c.optional args index = (c.strict args index).map some ∧
    ∀ object values, (c.binder index).bind object values args =
      .ok (c.boundOr (c.strict args index))

/-- What each of the three ways has to do with what the type of parameter takes. -/
structure Sound (c : Conversion α) (args : Arguments) (index : Nat) : Prop where
  made : ∀ contexts,
    Binder.ofParam contexts index (.optional c.param) = some (c.binder index, index + 1)
  refusesNil : c.param.takes .nil = none
  strict : (c.strict args index).map c.bound = match c.param.takes (args.get index) with
    | some bound => .ok bound
    | none => .error (.ofCause (c.param.complaint (index + 1) (args.get index)))
  optional : c.optional args index = args.optional index (c.strict args index)
  lenient : ∀ object values, (c.binder index).bind object values args =
    .ok (if (args.get index).isNil then .absent
      else (c.param.takes (args.get index)).getD .absent)

/-- A value is bound as what it is converted to. -/
theorem Sound.getD_takes (sound : c.Sound args index) :
    (c.param.takes (args.get index)).getD .absent = c.boundOr (c.strict args index) := by
  have same := sound.strict
  cases read : c.strict args index with
  | ok a =>
    rw [read] at same
    cases fits : c.param.takes (args.get index) with
    | none =>
      rw [fits] at same
      cases same
    | some bound =>
      rw [fits] at same
      exact (Except.ok.inj same).symm
  | error e =>
    rw [read] at same
    cases fits : c.param.takes (args.get index) with
    | none => rfl
    | some bound =>
      rw [fits] at same
      cases same

theorem isNil_eq_false {v : Value} (there : v ≠ .nil) : v.isNil = false := by
  cases v with
  | nil => exact absurd rfl there
  | _ => rfl

theorem complaint_nil (p : ParamType) (position : Nat) :
    p.complaint position .nil = .argumentType position p.wanted "nil" := by
  cases p <;> rfl

theorem Sound.agrees (sound : c.Sound args index) : c.Agrees args index := by
  refine ⟨sound.made, fun missing => ⟨?_, ?_, fun object values => ?_⟩,
    fun there => ⟨?_, fun object values => ?_⟩⟩
  · have refused := sound.strict
    rw [missing, sound.refusesNil, complaint_nil] at refused
    exact error_of_map refused
  · rw [sound.optional]
    unfold Arguments.optional
    rw [missing]
    rfl
  · rw [sound.lenient, missing]
    rfl
  · rw [sound.optional]
    unfold Arguments.optional
    rw [isNil_eq_false there]
    rfl
  · rw [sound.lenient, isNil_eq_false there, ← sound.getD_takes]
    rfl

/-! ## Each conversion -/

/-- A scalar that is read as its strict accessor says, for a parameter that nil does not fit. -/
theorem ofScalar_sound {s : Scalar} {param : ParamType}
    {strict : Arguments → Nat → Except Failure α} {bound : α → BoundArg}
    (scalar : Scalar.ofParam? param = some s) (refusesNil : param.takes .nil = none)
    (args : Arguments) {index : Nat} (reads : s.strict args index = (strict args index).map bound)
    (short : index + 1 < UInt64.size) :
    (ofScalar s param strict (fun a i => a.optional i (strict a i)) bound).Sound args index where
  made contexts := by
    cases param <;> cases scalar <;> rfl
  refusesNil := refusesNil
  strict := reads.symm.trans (Scalar.strict_eq args scalar short)
  optional := rfl
  lenient _ _ := congrArg Except.ok (Scalar.lenient_eq scalar _)

theorem constant_sound (choice : Choice) (args : Arguments) {index : Nat}
    (short : index + 1 < UInt64.size) : (constant choice).Sound args index where
  made _ := rfl
  refusesNil := rfl
  strict := Arguments.constant_eq args choice short
  optional := rfl
  lenient _ _ := congrArg Except.ok (Choice.lenient_eq choice _)

/-- The accessor that insists on a value, the one that may find none and the binder of an optional
parameter agree on every argument there can be, for every kind of value that scripts pass: where
there is none, or nil, the first complains of the type at the position counted from 1, the second
finds nothing and the third binds nothing. Elsewhere the second does what the first does, and the
third binds the value that the first gives, or nothing if it fails. -/
theorem conversions_agree (args : Arguments) {index : Nat} (short : index + 1 < UInt64.size) :
    string.Agrees args index ∧ number.Agrees args index ∧ int.Agrees args index ∧
    bool.Agrees args index ∧ table.Agrees args index ∧
    ∀ choice, (constant choice).Agrees args index :=
  ⟨(ofScalar_sound rfl rfl args rfl short).agrees, (ofScalar_sound rfl rfl args rfl short).agrees,
    (ofScalar_sound rfl rfl args rfl short).agrees, (ofScalar_sound rfl rfl args rfl short).agrees,
    (ofScalar_sound rfl rfl args rfl short).agrees,
    fun choice => (constant_sound choice args short).agrees⟩

/-! ## A name that is no number -/

/-- How loud something is to be. -/
def volume : Choice := ⟨"Volume", ["soft", "loud"]⟩

/-- A name in any case stands for its place, and for no number: there the optional parameter is
bound to nothing, where the accessor fails. -/
theorem conversions_agree_volume :
    let args := Arguments.ofList [.string "LOUD"]
    args.constant? 0 volume = .ok (some 1) ∧
    (Binder.optionalConstant 0 volume).bind .registry [] args = .ok (.constant 1) ∧
    args.int? 0 = .error (.ofCause (.argumentType 1 "number" "string")) ∧
    (Binder.optional 0 .int).bind .registry [] args = .ok .absent ∧
    args.bool 1 = .error (.ofCause (.argumentType 2 "boolean" "nil")) := by
  have first : (0 : Nat) + 1 < UInt64.size := by decide
  have second : (1 : Nat) + 1 < UInt64.size := by decide
  have there : (Arguments.ofList [.string "LOUD"]).get 0 ≠ .nil := nofun
  obtain ⟨-, -, int, -, -, constant⟩ :=
    conversions_agree (Arguments.ofList [.string "LOUD"]) first
  obtain ⟨-, -, -, bool, -, -⟩ := conversions_agree (Arguments.ofList [.string "LOUD"]) second
  obtain ⟨found, bound⟩ := (constant volume).present there
  obtain ⟨refused, absent⟩ := int.present there
  refine ⟨found.trans ?_, (bound .registry []).trans ?_, refused, absent .registry [],
    (bool.missing rfl).1⟩
  · decide
  · rfl

end Conversion

end DeviceBridge

import Mathlib.Data.Finset.Card
import Mathlib.Data.String.Basic
import Mathlib.Tactic.Tauto
import DeviceBridge.Value.Text

/-
  The objects that tables become. A key is turned into its text, and the texts of two keys are the
  same just if one of the two is the string that spells the other (`Key.display_eq_iff`). So the
  object of a table has a name twice just if the table holds a key beside its spelling
  (`Value.names_nodup_iff`), and a report, which sorts the members, then drops one of the two
  (`Json.length_sortedMembers_iff`).
-/

namespace DeviceBridge

/-! ## Texts of keys -/

theorem boolText_inj {b c : Bool} : boolText b = boolText c ↔ b = c := by
  revert b c
  decide

theorem isDigit_of_mem_repr {n : Nat} {c : Char} (here : c ∈ n.repr.toList) :
    c.isDigit = true := by
  rw [Nat.toList_repr] at here
  exact Nat.isDigit_of_mem_toDigits (by decide) (by decide) here

/-- The truth values are spelt with a letter that no number has. -/
theorem boolText_ne_toString (b : Bool) (i : Int) : boolText b ≠ toString i := by
  have letter : 'e' ∈ (boolText b).toList := by
    cases b <;> decide
  have digits (n : Nat) : 'e' ∉ n.repr.toList :=
    fun here => absurd (isDigit_of_mem_repr here) (by decide)
  intro same
  rw [same, Int.toString_eq_repr, Int.repr_eq_if] at letter
  split at letter
  next => exact digits _ letter
  next =>
    rw [String.toList_append, List.mem_append] at letter
    exact letter.elim (by decide) (digits _)

/-- A number is read back from its digits. -/
theorem natRepr_injective : Function.Injective Nat.repr := by
  intro m n same
  have digits := congrArg String.toList same
  rw [Nat.toList_repr, Nat.toList_repr] at digits
  have read := congrArg (Nat.ofDigitChars 10 · 0) digits
  simpa only [Nat.ofDigitChars_ten_toDigits] using read

/-- The sign is no digit, so it tells the negative numbers from the others. -/
theorem intRepr_injective : Function.Injective Int.repr := by
  have signed (m n : Nat) : m.repr ≠ "-" ++ n.repr := by
    intro same
    have sign : '-' ∈ m.repr.toList := by
      rw [same, String.toList_append]
      exact List.mem_append_left _ (by decide)
    exact absurd (isDigit_of_mem_repr sign) (by decide)
  intro i j same
  cases i with
  | ofNat m =>
    cases j with
    | ofNat n => exact congrArg Int.ofNat (natRepr_injective same)
    | negSucc n => exact absurd same (signed m (n + 1))
  | negSucc m =>
    cases j with
    | ofNat n => exact absurd same.symm (signed n (m + 1))
    | negSucc n =>
      have after : "-" ++ (m + 1).repr = "-" ++ (n + 1).repr := same
      have numbers := natRepr_injective ((String.append_right_inj "-").mp after)
      exact congrArg Int.negSucc (Nat.succ.inj numbers)

namespace Key

theorem display_eq_iff {k l : Key} :
    k.display = l.display ↔ k = l ∨ l = .string k.display ∨ k = .string l.display := by
  constructor
  · intro same
    cases k with
    | string s => exact .inr (.inr (congrArg Key.string same))
    | bool b =>
      cases l with
      | string s => exact .inr (.inl (congrArg Key.string same.symm))
      | bool c => exact .inl (congrArg Key.bool (boolText_inj.mp same))
      | int j => exact absurd same (boolText_ne_toString b _)
    | int i =>
      cases l with
      | string s => exact .inr (.inl (congrArg Key.string same.symm))
      | bool c => exact absurd same.symm (boolText_ne_toString c _)
      | int j =>
        have words : i.toInt.repr = j.toInt.repr := same
        exact .inl (congrArg Key.int (Int64.toInt_inj.mp (intRepr_injective words)))
  · rintro (rfl | spelt | spelt)
    · rfl
    · rw [spelt]
      rfl
    · rw [spelt]
      rfl

end Key

/-! ## Members of an object -/

namespace Json

/-- An object stands somewhere in a document. -/
inductive Holds : Json → List (String × Json) → Prop
  | here (members : List (String × Json)) : Holds (.object members) members
  | member {name : String} {j : Json} {members inner : List (String × Json)} :
      (name, j) ∈ members → Holds j inner → Holds (.object members) inner
  | item {j : Json} {items : List Json} {inner : List (String × Json)} :
      j ∈ items → Holds j inner → Holds (.array items) inner

/-- No object of the document, at whatever depth, has a name twice. -/
def Unambiguous (j : Json) : Prop :=
  ∀ members, j.Holds members → (Entries.keys members).Nodup

theorem mem_keys_insertMember {n name : String} {j : Json} {members : List (String × Json)} :
    n ∈ Entries.keys (insertMember name j members) ↔ n = name ∨ n ∈ Entries.keys members := by
  induction members with
  | nil => exact List.mem_cons
  | cons e rest ih =>
    obtain ⟨first, k⟩ := e
    unfold insertMember
    split
    next same =>
      subst same
      rw [Entries.mem_keys_cons, Entries.mem_keys_cons]
      tauto
    next =>
      split
      next => exact Entries.mem_keys_cons
      next =>
        rw [Entries.mem_keys_cons, Entries.mem_keys_cons, ih]
        tauto

theorem increasing_insertMember {name : String} {j : Json} {members : List (String × Json)}
    (increasing : (Entries.keys members).Pairwise (· < ·)) :
    (Entries.keys (insertMember name j members)).Pairwise (· < ·) := by
  induction members with
  | nil => exact List.pairwise_singleton _ _
  | cons e rest ih =>
    obtain ⟨first, k⟩ := e
    obtain ⟨below, later⟩ := List.pairwise_cons.mp increasing
    unfold insertMember
    split
    next same => subst same; exact increasing
    next differs =>
      split
      next before =>
        refine List.pairwise_cons.mpr ⟨fun n there => ?_, increasing⟩
        rcases List.mem_cons.mp there with rfl | there
        · exact before
        · exact before.trans (below n there)
      next behind =>
        refine List.pairwise_cons.mpr ⟨fun n there => ?_, ih later⟩
        rcases mem_keys_insertMember.mp there with rfl | there
        · exact lt_of_le_of_ne (not_lt.mp behind) differs
        · exact below n there

/-- By induction on the members that are sorted in: the names come once each and in order. -/
theorem names_sortedMembers (members : List (String × Json)) : ∀ before : List (String × Json),
    (Entries.keys before).Pairwise (· < ·) →
      (Entries.keys (sortedMembers before members)).Pairwise (· < ·) ∧
      ∀ n, n ∈ Entries.keys (sortedMembers before members) ↔
        n ∈ Entries.keys before ∨ n ∈ Entries.keys members := by
  induction members with
  | nil => exact fun _ increasing => ⟨increasing, fun n => by simp [sortedMembers, Entries.keys]⟩
  | cons e rest ih =>
    obtain ⟨name, j⟩ := e
    intro before increasing
    obtain ⟨sorted, names⟩ := ih (insertMember name j.sorted before)
      (increasing_insertMember increasing)
    refine ⟨sorted, fun n => (names n).trans ?_⟩
    rw [mem_keys_insertMember, Entries.mem_keys_cons]
    tauto

/-- Sorting keeps all members just if no name comes twice. -/
theorem length_sortedMembers_iff (members : List (String × Json)) :
    (sortedMembers [] members).length = members.length ↔ (Entries.keys members).Nodup := by
  obtain ⟨increasing, names⟩ := names_sortedMembers members [] .nil
  have same : (Entries.keys (sortedMembers [] members)).toFinset =
      (Entries.keys members).toFinset := by
    ext n
    rw [List.mem_toFinset, List.mem_toFinset, names]
    exact or_iff_right List.not_mem_nil
  calc (sortedMembers [] members).length = members.length
      ↔ (Entries.keys members).toFinset.card = (Entries.keys members).length := by
        rw [← same, List.toFinset_card_of_nodup (increasing.imp ne_of_lt), Entries.keys,
          Entries.keys, List.length_map, List.length_map]
    _ ↔ (Entries.keys members).Nodup := Multiset.toFinset_card_eq_card_iff_nodup

end Json

/-! ## Tables -/

namespace Value

/-- A table stands somewhere in a value: it is the value, or stands in what an entry holds. -/
inductive Holds : Value → List (Key × Value) → Prop
  | here (entries : List (Key × Value)) : Holds (.table entries) entries
  | entry {k : Key} {v : Value} {entries inner : List (Key × Value)} :
      (k, v) ∈ entries → Holds v inner → Holds (.table entries) inner

/-- The tables of a value have every key once. -/
def Keyed (v : Value) : Prop :=
  ∀ entries, v.Holds entries → (Entries.keys entries).Nodup

/-- A key that is no string stands beside the string that spells it. -/
def Clashes (entries : List (Key × Value)) : Prop :=
  ∃ k ∈ Entries.keys entries, k ≠ .string k.display ∧ .string k.display ∈ Entries.keys entries

instance (entries : List (Key × Value)) : Decidable (Clashes entries) :=
  inferInstanceAs (Decidable (∃ k ∈ Entries.keys entries, _))

theorem jsonMembers_eq (entries : List (Key × Value)) :
    jsonMembers entries = entries.map fun e => (e.1.display, e.2.toJson) := by
  induction entries with
  | nil => rfl
  | cons e rest ih => exact congrArg ((e.1.display, e.2.toJson) :: ·) ih

theorem keys_jsonMembers (entries : List (Key × Value)) :
    Entries.keys (jsonMembers entries) = (Entries.keys entries).map Key.display := by
  rw [jsonMembers_eq, Entries.keys, Entries.keys, List.map_map, List.map_map]
  rfl

theorem names_nodup_iff {entries : List (Key × Value)} (once : (Entries.keys entries).Nodup) :
    (Entries.keys (jsonMembers entries)).Nodup ↔ ¬Clashes entries := by
  rw [keys_jsonMembers, List.nodup_map_iff_inj_on once]
  constructor
  · rintro apart ⟨k, here, other, beside⟩
    exact other (apart k here _ beside rfl)
  · intro apart k here l there same
    by_contra differ
    -- Two keys with one text: one of them is the string that spells the other.
    rcases Key.display_eq_iff.mp same with rfl | spelt | spelt
    · exact differ rfl
    · exact apart ⟨k, here, spelt ▸ differ, spelt ▸ there⟩
    · exact apart ⟨l, there, spelt ▸ Ne.symm differ, spelt ▸ here⟩

/-- The objects in what a value is written as are those of its tables. -/
theorem holds_toJson_iff {v : Value} {members : List (String × Json)} :
    v.toJson.Holds members ↔ ∃ entries, v.Holds entries ∧ members = jsonMembers entries := by
  constructor
  · intro holds
    generalize written : v.toJson = j at holds
    induction holds generalizing v with
    | here members =>
      cases v with
      | table entries => exact ⟨entries, .here entries, (Json.object.inj written).symm⟩
      | _ => cases written
    | member there _ ih =>
      cases v with
      | table entries =>
        rw [← Json.object.inj written, jsonMembers_eq] at there
        obtain ⟨e, there, same⟩ := List.mem_map.mp there
        obtain ⟨inner, holds, eq⟩ := ih (congrArg Prod.snd same)
        exact ⟨inner, .entry there holds, eq⟩
      | _ => cases written
    | item =>
      cases v <;> cases written
  · rintro ⟨entries, holds, rfl⟩
    induction holds with
    | here entries => exact .here _
    | entry there _ ih =>
      exact .member (jsonMembers_eq _ ▸ List.mem_map_of_mem there) ih

theorem keyed_of_scalar {v : Value} (scalar : v.type ≠ .table) : v.Keyed := by
  rintro entries (_ | _) <;> exact absurd rfl scalar

/-- What is built from entries has every key once, if what the entries hold does. -/
theorem keyed_ofEntries {entries : List (Key × Value)} (keyed : ∀ e ∈ entries, e.2.Keyed) :
    (ofEntries entries).Keyed := by
  intro inner holds
  generalize built : ofEntries entries = v at holds
  cases holds with
  | here =>
    cases built
    exact Entries.nodup_keys_putAll entries .nil
  | entry there within =>
    cases built
    rcases Entries.mem_putAll there with there | there
    · exact keyed _ there _ within
    · cases there

/-- What becomes of the entries of a value's tables. Each table, however deep, is written as an
object with a member for every entry, named by the text of its key. The document has no name twice
in one object just if no table holds a key beside its spelling, and a report has all entries of a
table just if that table does not. -/
theorem toJson_unambiguous_iff {v : Value} (keyed : v.Keyed) :
    (∀ members, v.toJson.Holds members ↔ ∃ entries, v.Holds entries ∧
      members = entries.map fun e => (e.1.display, e.2.toJson)) ∧
    (v.toJson.Unambiguous ↔ ∀ entries, v.Holds entries → ¬Clashes entries) ∧
    ∀ entries, v.Holds entries → ∃ members, (table entries).toJson.sorted = .object members ∧
      (members.length = entries.length ↔ ¬Clashes entries) := by
  refine ⟨fun members => ?_, ?_, ?_⟩
  · rw [holds_toJson_iff]
    simp only [jsonMembers_eq]
  · constructor
    · intro apart entries holds
      exact (names_nodup_iff (keyed _ holds)).mp (apart _ (holds_toJson_iff.mpr ⟨_, holds, rfl⟩))
    · intro apart members holds
      obtain ⟨entries, within, rfl⟩ := holds_toJson_iff.mp holds
      exact (names_nodup_iff (keyed _ within)).mpr (apart _ within)
  · intro entries holds
    have all : (jsonMembers entries).length = entries.length := by
      rw [jsonMembers_eq, List.length_map]
    refine ⟨_, rfl, ?_⟩
    rw [← all, Json.length_sortedMembers_iff, names_nodup_iff (keyed _ holds)]

/-- A table with keys of every kind, one of which holds another table. -/
def mixed : Value :=
  ofEntries [(.int 1, .string "one"), (.bool true, ofEntries [(.string "1", .nil)])]

theorem toJson_unambiguous_iff_mixed : mixed.Keyed ∧ mixed.toJson.Unambiguous := by
  have inner : (ofEntries [(.string "1", .nil)]).Keyed :=
    keyed_ofEntries fun e here => List.mem_singleton.mp here ▸ keyed_of_scalar (by decide)
  have keyed : mixed.Keyed := by
    refine keyed_ofEntries fun e here => ?_
    rcases List.mem_pair.mp here with rfl | rfl
    · exact keyed_of_scalar (by decide)
    · exact inner
  refine ⟨keyed, (toJson_unambiguous_iff keyed).2.1.mpr fun entries holds => ?_⟩
  cases holds with
  | here => decide
  | entry there within =>
    rcases List.mem_pair.mp there with same | same <;> cases same
    · cases within
    · cases within with
      | here => decide
      | entry there within =>
        cases List.mem_singleton.mp there
        cases within

/-- Two entries whose keys differ but are spelt alike. -/
def twins : Value := ofEntries [(.bool true, .int 1), (.string "true", .int 2)]

theorem twins_written_alike : twins.Keyed ∧ ¬twins.toJson.Unambiguous ∧
    twins.json = "\x7b\"true\":1,\"true\":2\x7d" := by
  refine ⟨?_, fun apart => ?_, ?_⟩
  · refine keyed_ofEntries fun e here => ?_
    rcases List.mem_pair.mp here with rfl | rfl <;> exact keyed_of_scalar (by decide)
  · exact absurd (apart _ (.here _)) (by decide)
  · decide

end Value

end DeviceBridge

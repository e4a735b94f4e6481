/-
  Lists of named entries in the order in which their names first came. Entering a name that is there
  keeps its place and replaces what it stands for (`Entries.put`).
-/

namespace DeviceBridge.Entries

variable {κ α : Type} [DecidableEq κ]

/-- What a name stands for. -/
def get? (key : κ) : List (κ × α) → Option α
  | [] => none
  | (k, v) :: rest => if k = key then some v else get? key rest

def put (key : κ) (value : α) : List (κ × α) → List (κ × α)
  | [] => [(key, value)]
  | (k, v) :: rest => if k = key then (k, value) :: rest else (k, v) :: put key value rest

/-- Enter several, one after the other. -/
def putAll (entries : List (κ × α)) : List (κ × α) → List (κ × α)
  | [] => entries
  | (k, v) :: rest => putAll (put k v entries) rest

def keys (entries : List (κ × α)) : List κ := entries.map (·.1)

omit [DecidableEq κ] in
theorem mem_keys_cons {key : κ} {e : κ × α} {entries : List (κ × α)} :
    key ∈ keys (e :: entries) ↔ key = e.1 ∨ key ∈ keys entries :=
  List.mem_cons

theorem get?_put_self (key : κ) (value : α) (entries : List (κ × α)) :
    get? key (put key value entries) = some value := by
  induction entries with
  | nil => simp [get?, put]
  | cons e rest ih =>
    obtain ⟨k, v⟩ := e
    by_cases h : k = key <;> simp [get?, put, h, ih]

theorem get?_put_ne {key other : κ} (h : other ≠ key) (value : α) (entries : List (κ × α)) :
    get? other (put key value entries) = get? other entries := by
  induction entries with
  | nil => simp [get?, put, Ne.symm h]
  | cons e rest ih =>
    obtain ⟨k, v⟩ := e
    by_cases hk : k = key
    · subst hk
      simp [get?, put, Ne.symm h]
    · simp [get?, put, hk, ih]

theorem keys_put_of_mem {key : κ} (value : α) {entries : List (κ × α)} (h : key ∈ keys entries) :
    keys (put key value entries) = keys entries := by
  induction entries with
  | nil => simp [keys] at h
  | cons e rest ih =>
    obtain ⟨k, v⟩ := e
    by_cases hk : k = key
    · simp [keys, put, hk]
    · have hr : key ∈ keys rest := (List.mem_cons.1 h).resolve_left fun h => hk h.symm
      simpa [keys, put, hk] using ih hr

theorem keys_put_of_not_mem {key : κ} (value : α) {entries : List (κ × α)}
    (h : key ∉ keys entries) : keys (put key value entries) = keys entries ++ [key] := by
  induction entries with
  | nil => simp [keys, put]
  | cons e rest ih =>
    obtain ⟨k, v⟩ := e
    have hk : ¬ k = key := fun hk => h (by simp [keys, hk])
    have hr : key ∉ keys rest := fun hr => h (by simp only [keys, List.map_cons]; exact .tail _ hr)
    simpa [keys, put, hk] using ih hr

theorem put_of_absent {key : κ} {entries : List (κ × α)} (absent : get? key entries = none)
    (value : α) : put key value entries = entries ++ [(key, value)] := by
  induction entries with
  | nil => rfl
  | cons e rest ih =>
    obtain ⟨k, v⟩ := e
    by_cases same : k = key
    · simp [get?, same] at absent
    · simp only [get?, same, if_false] at absent
      simp [put, same, ih absent]

theorem get?_of_prefix {before after : List (κ × α)} (grows : before <+: after) {key : κ}
    {value : α} (found : get? key before = some value) : get? key after = some value := by
  obtain ⟨more, rfl⟩ := grows
  induction before with
  | nil => cases found
  | cons e rest ih =>
    obtain ⟨k, v⟩ := e
    by_cases same : k = key
    · simpa [get?, same] using found
    · simp only [get?, same, if_false, List.cons_append] at found ⊢
      exact ih found

theorem place_of_get? {key : κ} {value : α} {entries : List (κ × α)}
    (found : get? key entries = some value) :
    ∃ place : Nat, entries[place]? = some (key, value) := by
  induction entries with
  | nil => cases found
  | cons e rest ih =>
    obtain ⟨k, v⟩ := e
    by_cases same : k = key
    · simp only [get?, same, if_true, Option.some.injEq] at found
      exact ⟨0, by rw [List.getElem?_cons_zero, same, found]⟩
    · simp only [get?, same, if_false] at found
      obtain ⟨place, here⟩ := ih found
      exact ⟨place + 1, by rw [List.getElem?_cons_succ, here]⟩

theorem mem_put {key : κ} {value : α} {entries : List (κ × α)} {e : κ × α}
    (there : e ∈ put key value entries) : e = (key, value) ∨ e ∈ entries := by
  induction entries with
  | nil => exact .inl (List.mem_singleton.mp there)
  | cons first rest ih =>
    obtain ⟨k, v⟩ := first
    unfold put at there
    split at there
    next same =>
      subst same
      exact (List.mem_cons.mp there).imp_right (.tail _)
    next =>
      rcases List.mem_cons.mp there with rfl | later
      · exact .inr (.head _)
      · exact (ih later).imp_right (.tail _)

/-! ## Entering several -/

theorem putAll_append (more others : List (κ × α)) : ∀ entries : List (κ × α),
    putAll entries (more ++ others) = putAll (putAll entries more) others := by
  induction more with
  | nil => exact fun _ => rfl
  | cons e rest ih => exact fun entries => ih (put e.1 e.2 entries)

/-- By induction on what is entered. -/
theorem mem_putAll {more : List (κ × α)} {e : κ × α} : ∀ {entries : List (κ × α)},
    e ∈ putAll entries more → e ∈ more ∨ e ∈ entries := by
  induction more with
  | nil => exact .inr
  | cons first rest ih =>
    intro entries there
    rcases ih there with later | there
    · exact .inl (.tail _ later)
    · exact (mem_put there).imp_left fun same : e = first => same ▸ .head _

/-- The names come in the order in which they first came. By induction on what is entered, from the
end. -/
theorem keys_putAll (more : List (κ × α)) : keys (putAll [] more) = (keys more).eraseDups := by
  rw [← List.reverse_reverse more]
  induction more.reverse with
  | nil => rfl
  | cons e before ih =>
    have split : keys (before.reverse ++ [e]) = keys before.reverse ++ [e.1] := List.map_append
    rw [List.reverse_cons, putAll_append, split, List.eraseDups_append, ← ih]
    show keys (put e.1 e.2 (putAll [] before.reverse)) = _
    by_cases there : e.1 ∈ keys before.reverse
    · have entered : e.1 ∈ keys (putAll [] before.reverse) := ih ▸ List.mem_eraseDups.mpr there
      rw [keys_put_of_mem _ entered]
      simp [List.removeAll, there]
    · have absent : e.1 ∉ keys (putAll [] before.reverse) :=
        ih ▸ fun entered => there (List.mem_eraseDups.mp entered)
      rw [keys_put_of_not_mem _ absent]
      simp [List.removeAll, there, List.eraseDups_cons]

theorem nodup_keys_put (key : κ) (value : α) {entries : List (κ × α)}
    (once : (keys entries).Nodup) : (keys (put key value entries)).Nodup := by
  by_cases there : key ∈ keys entries
  · rwa [keys_put_of_mem value there]
  · rw [keys_put_of_not_mem value there]
    refine List.nodup_append.mpr ⟨once, by simp, ?_⟩
    rintro other here _ (_ | ⟨_, ⟨⟩⟩) rfl
    exact there here

/-- By induction on what is entered. -/
theorem nodup_keys_putAll (more : List (κ × α)) : ∀ {entries : List (κ × α)},
    (keys entries).Nodup → (keys (putAll entries more)).Nodup := by
  induction more with
  | nil => exact fun once => once
  | cons e rest ih => exact fun once => ih (nodup_keys_put e.1 e.2 once)

/-- By induction on what is entered. -/
theorem get?_putAll_of_not_mem {key : κ} {more : List (κ × α)} : ∀ {entries : List (κ × α)},
    key ∉ keys more → get? key (putAll entries more) = get? key entries := by
  induction more with
  | nil => exact fun _ => rfl
  | cons e rest ih =>
    intro entries absent
    obtain ⟨other, behind⟩ := not_or.mp (mt List.mem_cons.mpr absent)
    exact (ih behind).trans (get?_put_ne other e.2 entries)

/-- A name stands for what was entered under it last. -/
theorem get?_putAll_last {key : κ} {after : List (κ × α)} (last : key ∉ keys after)
    (before : List (κ × α)) (value : α) (entries : List (κ × α)) :
    get? key (putAll entries (before ++ (key, value) :: after)) = some value := by
  rw [putAll_append]
  exact (get?_putAll_of_not_mem last).trans (get?_put_self key value _)

theorem mem_keys_iff {key : κ} {entries : List (κ × α)} :
    key ∈ keys entries ↔ (get? key entries).isSome := by
  induction entries with
  | nil => simp [keys, get?]
  | cons e rest ih =>
    obtain ⟨k, v⟩ := e
    by_cases same : k = key
    · simp [keys, get?, same]
    · have other : ¬key = k := Ne.symm same
      unfold keys at ih
      simp [keys, get?, same, other, ih]

/-! ## What holds of every value -/

/-- Whatever a name stands for has a property. -/
def All (P : α → Prop) (entries : List (κ × α)) : Prop :=
  ∀ key value, get? key entries = some value → P value

namespace All

variable {P : α → Prop} {entries : List (κ × α)}

theorem nil : All P ([] : List (κ × α)) := by
  rintro key value ⟨⟩

theorem put (all : All P entries) {key : κ} {value : α} (fits : P value) :
    All P (Entries.put key value entries) := by
  intro other found here
  by_cases same : other = key
  · rw [same, get?_put_self] at here
    cases here
    exact fits
  · rw [get?_put_ne same] at here
    exact all other found here

/-- By induction on what is entered. -/
theorem putAll {more : List (κ × α)} : ∀ {entries : List (κ × α)}, All P entries →
    (∀ e ∈ more, P e.2) → All P (Entries.putAll entries more) := by
  induction more with
  | nil => exact fun all _ => all
  | cons e rest ih =>
    intro entries all fit
    obtain ⟨first, others⟩ := List.forall_mem_cons.mp fit
    exact ih (all.put first) others

end All

end DeviceBridge.Entries

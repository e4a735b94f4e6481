import DeviceBridge.Proofs.Host.Trace
import DeviceBridge.Proofs.Registry.Hooks

/-
  Code that keeps within bounds. Its requests are all of some kind, it neither changes the registry
  nor calls through it, and so it is with all code that it queues (`Code.Asks`). Such code is quiet
  in a hook, and each single change that it makes is of that kind too (`Program.changes_fit`).
-/

namespace DeviceBridge

/-- Code that makes requests of some kind and queues code that does, and nothing besides. -/
def Code.Asks (kind : Request → Prop) : Code → Prop
  | .done _ => True
  | .fail failure => failure ≠ .escaped .exhausted
  | .suspend .. => True
  | .await _ => True
  | .ask request next => kind request ∧ ∀ answer, (next answer).Asks kind
  | .command .. => False
  | .enqueue completion body next => (∀ id left, (completion id left).Asks kind) ∧
    body.Asks kind ∧ ∀ answer, (next answer).Asks kind
  | .call _ => False
  | .attempt body next => body.Asks kind ∧ ∀ seen, (next seen).Asks kind
  | .adjustWait body _ => body.Asks kind
  | .adjustError body _ => body.Asks kind

/-- A change that such code may make, or that is logged or told of it. -/
def Change.Fits (kind : Request → Prop) : Change → Prop
  | .ask request => kind request
  | .enqueue completion body => (∀ id left, (completion id left).Asks kind) ∧ body.Asks kind
  | .write .. => True
  | .queueEvent .. => True
  | _ => False

variable {kind : Request → Prop}

/-- By induction on the code. -/
theorem Code.Asks.modest (body : Code) : body.Asks kind → body.Modest := by
  induction body with
  | done | suspend | await => exact fun _ => trivial
  | fail failure => exact id
  | ask request next ih => exact fun asks answer => ih answer (asks.2 answer)
  | command | call => exact id
  | enqueue completion body next _ _ ih => exact fun asks answer => ih answer (asks.2.2 answer)
  | attempt body next ihBody ihNext =>
    exact fun asks => ⟨ihBody asks.1, fun seen => ihNext seen (asks.2 seen)⟩
  | adjustWait body _ ih | adjustError body _ ih => exact ih

/-- By induction on the code. -/
theorem Code.Asks.changes_fit {nested : Nested} {traced : NestedChanges} (body : Code) :
    ∀ h : Host, body.Asks kind → ∀ c ∈ body.changes nested traced h, c.Fits kind := by
  induction body with
  | done | fail | suspend | await => exact fun _ _ _ here => absurd here List.not_mem_nil
  | ask request next ih =>
    intro h asks
    exact List.forall_mem_cons.mpr ⟨asks.1, ih _ _ (asks.2 _)⟩
  | command | call => exact fun _ asks => asks.elim
  | enqueue completion body next _ _ ih =>
    intro h asks
    exact List.forall_mem_cons.mpr ⟨⟨asks.1, asks.2.1⟩, ih _ _ (asks.2.2 _)⟩
  | attempt body next ihBody ihNext =>
    intro h asks
    unfold Code.changes
    refine List.forall_mem_append.mpr ⟨ihBody h asks.1, ?_⟩
    split
    · exact ihNext _ _ (asks.2 _)
    · exact fun _ here => absurd here List.not_mem_nil
  | adjustWait body _ ih | adjustError body _ ih => exact ih

theorem Program.changes_fit (depth : Nat) {body : Code} (asks : body.Asks kind) (h : Host) :
    ∀ c ∈ Program.changes depth body h, c.Fits kind := by
  cases depth <;> exact Code.Asks.changes_fit body h asks

end DeviceBridge

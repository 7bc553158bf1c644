import Backoffice.Proofs.Call
import Backoffice.Proofs.Dict
import Backoffice.Proofs.Text.Key
import Backoffice.Workflow.Store

namespace Backoffice

namespace Workflow

def Binding.place (b : Binding) : ScopeType × String × String × Nat :=
  (b.scopeType, b.scopeRef, b.environment, b.priority)

theorem Binding.collides_iff {a b : Binding} :
    a.collides b = true ↔ a.active ∧ b.active ∧ a.id ≠ b.id ∧ a.place = b.place := by
  simp [collides, place, and_assoc]

theorem Binding.validate_eq_error {b : Binding} {f : Fault} (h : b.validate = .error f) :
    ∃ path reason, f = .invalid path reason := by
  rcases refuse_eq_error.1 h with ⟨-, rfl⟩ | ⟨-, h⟩
  · exact ⟨_, _, rfl⟩
  · split at h
    · cases h
      exact ⟨_, _, rfl⟩
    · cases h

@[simp] theorem Binding.normalized_normalized (b : Binding) :
    b.normalized.normalized = b.normalized := by
  unfold normalized
  cases b.scopeType <;> simp

theorem Binding.normalized_stamped {b : Binding} (h : b.normalized = b) (version : Nat)
    (createdAt : Instant) :
    { b with version, createdAt }.normalized = { b with version, createdAt } :=
  congrArg (fun b : Binding => { b with version, createdAt }) h

structure Binding.Succeeds (b : Binding) (previous : Option Binding) : Prop where
  normal : b.normalized = b
  version : ∀ current, previous = some current → b.version = current.version + 1

namespace Revision

theorem mem_enter {r other : Revision} {revs : List Revision} (h : other ∈ r.enter revs) :
    other = r ∨ other ∈ revs := by
  induction revs with
  | nil => exact .inl (List.mem_singleton.1 h)
  | cons first rest ih =>
    unfold enter at h
    split at h
    · exact List.mem_cons.1 h
    · split at h
      · exact (List.mem_cons.1 h).imp_right (List.mem_cons_of_mem first)
      · rcases List.mem_cons.1 h with rfl | h
        · exact .inr List.mem_cons_self
        · exact (ih h).imp_right (List.mem_cons_of_mem first)

theorem mem_enter_self (r : Revision) (revs : List Revision) : r ∈ r.enter revs := by
  induction revs with
  | nil => exact List.mem_singleton_self r
  | cons first rest ih =>
    unfold enter
    split
    · exact List.mem_cons_self
    · split
      · exact List.mem_cons_self
      · exact List.mem_cons_of_mem first ih

theorem enter_eq_append {r : Revision} {revs : List Revision}
    (h : ∀ other ∈ revs, other.version < r.version) : r.enter revs = revs ++ [r] := by
  induction revs with
  | nil => rfl
  | cons first rest ih =>
    obtain ⟨hfirst, hrest⟩ := List.forall_mem_cons.1 h
    rw [enter, if_neg (by omega), if_neg (by omega), ih hrest, List.cons_append]

end Revision

namespace Store

def history (s : Store) (id : String) : List Revision := (s.revisions.get? id).getD []

theorem history_write (s : Store) (w : Workflow) (id : String) :
    (s.write w).history id =
      if id = w.id then w.revision.enter (s.history id) else s.history id := by
  rw [history, write, Dict.get?_set]
  split
  · rename_i h
    subst h
    rfl
  · rfl

theorem get?_write (s : Store) (w : Workflow) (id : String) :
    (s.write w).workflows.get? id = if id = w.id then some w else s.workflows.get? id :=
  Dict.get?_set s.workflows w.id id w

theorem getWorkflow_eq_ok {s : Store} {ctx : Context} {id : String} {w : Workflow}
    (h : s.getWorkflow ctx id = .ok w) :
    ctx.ensureActive = .ok () ∧ s.workflows.get? id = some w := by
  obtain ⟨_, hctx, h⟩ := bind_eq_ok.1 h
  split at h
  · cases h
    exact ⟨hctx, by assumption⟩
  · cases h

theorem getBinding_eq_ok {s : Store} {ctx : Context} {id : String} {b : Binding}
    (h : s.getBinding ctx id = .ok b) :
    ctx.ensureActive = .ok () ∧ s.bindings.get? id = some b := by
  obtain ⟨_, hctx, h⟩ := bind_eq_ok.1 h
  split at h
  · cases h
    exact ⟨hctx, by assumption⟩
  · cases h

theorem insertWorkflow_eq_ok {s t : Store} {ctx : Context} {w v : Workflow}
    (h : s.insertWorkflow ctx w = .ok (v, t)) :
    v = w ∧ s.workflows.get? w.id = none ∧ t = s.write w := by
  obtain ⟨-, -, h⟩ := bind_eq_ok.1 h
  obtain ⟨hc, h⟩ := refuse_eq_ok.1 h
  cases h
  exact ⟨rfl, (Dict.contains_eq_false_iff _ _).1 (Bool.eq_false_iff.2 hc), rfl⟩

theorem replaceWorkflow_eq_ok {s t : Store} {ctx : Context} {w v : Workflow} {expected : Nat}
    (h : s.replaceWorkflow ctx w expected = .ok (v, t)) :
    ∃ current, s.workflows.get? w.id = some current ∧ current.version = expected ∧
      v = { w with version := current.version + 1, createdAt := current.createdAt } ∧
      t = s.write v := by
  obtain ⟨current, hget, h⟩ := bind_eq_ok.1 h
  obtain ⟨version, hversion, h⟩ := bind_eq_ok.1 h
  cases h
  obtain ⟨rfl, rfl⟩ := Version.next_eq_ok hversion
  exact ⟨current, (getWorkflow_eq_ok hget).2, rfl, rfl, rfl⟩

theorem checkUnique_eq_ok {s : Store} {b : Binding} (h : s.checkUnique b = .ok ()) {id : String}
    {other : Binding} (hother : s.bindings.get? id = some other) : other.collides b = false := by
  unfold checkUnique at h
  split at h
  · cases h
  · rename_i hfind
    have hmem : other ∈ s.bindings.values := (Dict.mem_values_iff _ _).2 ⟨id, hother⟩
    simpa using List.find?_eq_none.1 hfind other hmem

theorem checkUnique_eq_error {s : Store} {b : Binding} {f : Fault}
    (h : s.checkUnique b = .error f) :
    ∃ id other, s.bindings.get? id = some other ∧ other.collides b = true ∧ f = other.taken := by
  unfold checkUnique at h
  split at h
  · rename_i other hfind
    cases h
    obtain ⟨id, hid⟩ := (Dict.mem_values_iff _ _).1 (List.mem_of_find?_eq_some hfind)
    have hcollides := List.find?_some hfind
    exact ⟨id, other, hid, hcollides, rfl⟩
  · cases h

theorem writeBinding_eq_ok {s t : Store} {b c : Binding} (h : s.writeBinding b = .ok (c, t)) :
    c = b ∧ s.checkReference b = .ok () ∧ s.checkUnique b = .ok () ∧
      t = { s with bindings := s.bindings.set b.id b } := by
  obtain ⟨_, href, h⟩ := bind_eq_ok.1 h
  obtain ⟨_, hunique, h⟩ := bind_eq_ok.1 h
  cases h
  exact ⟨rfl, href, hunique, rfl⟩

theorem insertBinding_eq_ok {s t : Store} {ctx : Context} {b c : Binding}
    (h : s.insertBinding ctx b = .ok (c, t)) :
    s.bindings.get? b.id = none ∧ s.writeBinding b = .ok (c, t) := by
  obtain ⟨-, -, h⟩ := bind_eq_ok.1 h
  obtain ⟨hc, h⟩ := refuse_eq_ok.1 h
  exact ⟨(Dict.contains_eq_false_iff _ _).1 (Bool.eq_false_iff.2 hc), h⟩

theorem replaceBinding_eq_ok {s t : Store} {ctx : Context} {b c : Binding} {expected : Nat}
    (h : s.replaceBinding ctx b expected = .ok (c, t)) :
    ∃ current, s.bindings.get? b.id = some current ∧ current.version = expected ∧
      s.writeBinding { b with version := current.version + 1, createdAt := current.createdAt } =
        .ok (c, t) := by
  obtain ⟨current, hget, h⟩ := bind_eq_ok.1 h
  obtain ⟨version, hversion, h⟩ := bind_eq_ok.1 h
  obtain ⟨rfl, rfl⟩ := Version.next_eq_ok hversion
  exact ⟨current, (getBinding_eq_ok hget).2, rfl, h⟩

theorem checkReference_eq_error {s : Store} {b : Binding} {f : Fault}
    (h : s.checkReference b = .error f) : ∃ reason, f = .invalid "workflow_id" reason := by
  unfold checkReference at h
  split at h
  · cases h
    exact ⟨_, rfl⟩
  · split at h
    · cases h
      exact ⟨_, rfl⟩
    · cases h

theorem writeBinding_taken {s : Store} {b : Binding} {id t ref : String} {e : Option String}
    {p : Nat} (h : s.writeBinding b = .error (.bindingTaken id t ref e p)) :
    s.checkUnique b = .error (.bindingTaken id t ref e p) := by
  rcases bind_eq_error.1 h with h | ⟨_, -, h⟩
  · obtain ⟨_, hf⟩ := checkReference_eq_error h
    cases hf
  · rcases bind_eq_error.1 h with h | ⟨_, -, h⟩
    · exact h
    · cases h

theorem insertBinding_taken {s : Store} {ctx : Context} {b : Binding} {id t ref : String}
    {e : Option String} {p : Nat}
    (h : s.insertBinding ctx b = .error (.bindingTaken id t ref e p)) :
    s.checkUnique b = .error (.bindingTaken id t ref e p) := by
  rcases bind_eq_error.1 h with h | ⟨_, -, h⟩
  · cases Context.ensureActive_eq_error h
  · rcases refuse_eq_error.1 h with ⟨-, h⟩ | ⟨-, h⟩
    · cases h
    · exact writeBinding_taken h

theorem getBinding_eq_error {s : Store} {ctx : Context} {id : String} {f : Fault}
    (h : s.getBinding ctx id = .error f) :
    f = .cancelled ∨ f = .notFound "workflow binding" id := by
  rcases bind_eq_error.1 h with h | ⟨_, -, h⟩
  · exact .inl (Context.ensureActive_eq_error h)
  · split at h
    · cases h
    · cases h
      exact .inr rfl

theorem replaceBinding_taken {s : Store} {ctx : Context} {b : Binding} {expected : Nat}
    {id t ref : String} {e : Option String} {p : Nat}
    (h : s.replaceBinding ctx b expected = .error (.bindingTaken id t ref e p)) :
    s.checkUnique b = .error (.bindingTaken id t ref e p) := by
  rcases bind_eq_error.1 h with h | ⟨current, -, h⟩
  · rcases getBinding_eq_error h with hf | hf <;> cases hf
  · rcases bind_eq_error.1 h with h | ⟨version, -, h⟩
    · cases Version.next_eq_error h
    · -- version and time of creation do not matter to uniqueness
      have hunique := writeBinding_taken h
      exact hunique

theorem deleteBinding_eq_ok {s t : Store} {ctx : Context} {id : String}
    (h : s.deleteBinding ctx id = .ok t) : t = { s with bindings := s.bindings.erase id } := by
  obtain ⟨_, -, h⟩ := bind_eq_ok.1 h
  cases h
  rfl

end Store

end Workflow

end Backoffice

import Backoffice.Assignment.Queue
import Backoffice.Proofs.Call
import Backoffice.Proofs.Dict

namespace Backoffice.Assignment

def Taken (f : Fault) : Prop := ∃ id work, f = .assignmentTaken id work

def Unavailable (f : Fault) : Prop := ∃ entity state op, f = .invalidTransition entity state op

inductive Plain : Fault → Prop
  | cancelled : Plain .cancelled
  | invalid {field constraint : String} : Plain (.invalid field constraint)
  | notFound {resource id : String} : Plain (.notFound resource id)
  | stale {id : String} {expected actual : Nat} : Plain (.staleAssignment id expected actual)

theorem Plain.not_taken {f : Fault} (h : Plain f) : ¬Taken f := by
  rintro ⟨id, work, rfl⟩
  cases h

theorem Plain.available {f : Fault} (h : Plain f) : ¬Unavailable f := by
  rintro ⟨entity, state, op, rfl⟩
  cases h

theorem Plain.of_ensureActive {ctx : Context} {f : Fault} (h : ctx.ensureActive = .error f) :
    Plain f := by
  cases Context.ensureActive_eq_error h
  exact .cancelled

theorem Operation.apply_frame {op : Operation} {a b : Assignment} {action : Action} {now : Instant}
    (h : op.apply a action now = .ok b) :
    b = { a with
      pool := b.pool, status := b.status, assigneeId := b.assigneeId, assignerId := b.assignerId,
      reviewerId := b.reviewerId, rejectionReason := b.rejectionReason, claimedAt := b.claimedAt,
      submittedAt := b.submittedAt, reviewedAt := b.reviewedAt, publishedAt := b.publishedAt,
      archivedAt := b.archivedAt } := by
  unfold apply at h
  dsimp only at h
  split at h
  all_goals try split at h
  all_goals cases h <;> rfl

theorem Operation.isOpen_of_apply {op : Operation} {a b : Assignment} {action : Action}
    {now : Instant} (h : op.apply a action now = .ok b) : a.isOpen := by
  cases hclosed : a.status.isTerminal with
  | false => simp [isOpen, hclosed]
  | true =>
    have hstatus : a.status = .published ∨ a.status = .archived := by
      revert hclosed
      cases a.status <;> simp [Status.isTerminal]
    rcases hstatus with hs | hs <;> cases op <;> simp [apply, hs, Status.isTerminal] at h

theorem Operation.apply_not_taken {op : Operation} {a : Assignment} {action : Action}
    {now : Instant} {f : Fault} (h : op.apply a action now = .error f) : ¬Taken f := by
  rintro ⟨id, work, rfl⟩
  unfold apply at h
  dsimp only at h
  split at h
  all_goals try split at h
  all_goals cases h

theorem Action.validate_plain {action : Action} {f : Fault} (h : action.validate = .error f) :
    Plain f := by
  simp only [validate, refuse_eq_error] at h
  rcases h with ⟨-, rfl⟩ | ⟨-, ⟨-, rfl⟩ | ⟨-, h⟩⟩
  · exact .invalid
  · exact .invalid
  · split at h <;> cases h
    exact .invalid

theorem validate_plain {a : Assignment} {f : Fault} (h : a.validate = .error f) : Plain f := by
  simp only [validate, bind, Except.bind] at h
  repeat' split at h
  all_goals cases h
  all_goals exact .invalid

namespace Store

theorem get_eq_ok {s : Store} {ctx : Context} {id : String} {a : Assignment}
    (h : s.get ctx id = .ok a) : ctx.ensureActive = .ok () ∧ s.rows.get? id = some a := by
  obtain ⟨_, hctx, h⟩ := bind_eq_ok.1 h
  split at h
  · cases h
    exact ⟨hctx, by assumption⟩
  · cases h

@[simp] theorem get?_write (s : Store) (a : Assignment) (id : String) :
    (s.write a).rows.get? id = if id = a.id then some a else s.rows.get? id :=
  Dict.get?_set s.rows a.id id a

theorem get_plain {s : Store} {ctx : Context} {id : String} {f : Fault}
    (h : s.get ctx id = .error f) : Plain f := by
  rcases bind_eq_error.1 h with h | ⟨_, -, h⟩
  · exact .of_ensureActive h
  · split at h <;> cases h
    exact .notFound

theorem checkUnique_eq_ok {s : Store} {a : Assignment} (h : s.checkUnique a = .ok ())
    (ha : a.isOpen) {id : String} {row : Assignment} (hrow : s.rows.get? id = some row)
    (hopen : row.isOpen) (hwork : row.work = a.work) : row.id = a.id := by
  rw [checkUnique, ha] at h
  cases hfind : s.rows.values.find? fun row => row.id != a.id && row.isOpen && row.work == a.work with
  | some other => simp [hfind] at h
  | none =>
    have hmem : row ∈ s.rows.values := (Dict.mem_values_iff _ _).2 ⟨id, hrow⟩
    simpa [hopen, hwork] using List.find?_eq_none.1 hfind row hmem

theorem checkUnique_eq_error {s : Store} {a : Assignment} {f : Fault}
    (h : s.checkUnique a = .error f) :
    a.isOpen ∧ ∃ id row, s.rows.get? id = some row ∧ row.id ≠ a.id ∧ row.isOpen ∧
      row.work = a.work ∧ f = .assignmentTaken row.id a.work.text := by
  unfold checkUnique at h
  split at h
  · cases h
  · rename_i hopen
    split at h
    · rename_i row hfind
      cases h
      obtain ⟨id, hid⟩ := (Dict.mem_values_iff _ _).1 (List.mem_of_find?_eq_some hfind)
      have hrow := List.find?_some hfind
      simp only [Bool.and_eq_true, bne_iff_ne, beq_iff_eq] at hrow
      exact ⟨by simpa using hopen, id, row, hid, hrow.1.1, hrow.1.2, hrow.2, rfl⟩
    · cases h

theorem insert_eq_ok {s t : Store} {ctx : Context} {a b : Assignment}
    (h : s.insert ctx a = .ok (b, t)) :
    b = a ∧ s.rows.get? a.id = none ∧ s.checkUnique a = .ok () ∧ t = s.write a := by
  obtain ⟨-, -, h⟩ := bind_eq_ok.1 h
  obtain ⟨hc, h⟩ := refuse_eq_ok.1 h
  obtain ⟨_, hu, h⟩ := bind_eq_ok.1 h
  cases h
  exact ⟨rfl, (Dict.contains_eq_false_iff _ _).1 (Bool.eq_false_iff.2 hc), hu, rfl⟩

theorem insert_taken {s : Store} {ctx : Context} {a : Assignment} {f : Fault}
    (h : s.insert ctx a = .error f) (hf : Taken f) : s.checkUnique a = .error f := by
  obtain ⟨id, work, rfl⟩ := hf
  rcases bind_eq_error.1 h with h | ⟨_, -, h⟩
  · cases Context.ensureActive_eq_error h
  · rcases refuse_eq_error.1 h with ⟨-, h⟩ | ⟨-, h⟩
    · cases h
    · rcases bind_eq_error.1 h with h | ⟨_, -, h⟩
      · exact h
      · cases h

theorem replace_eq_ok {s t : Store} {ctx : Context} {a b : Assignment} {expected : Nat}
    (h : s.replace ctx a expected = .ok (b, t)) :
    ∃ current, s.rows.get? a.id = some current ∧
      ((isReplay current a = true ∧ b = current ∧ t = s) ∨
        (isReplay current a = false ∧ current.version = expected ∧
          b = { a with version := current.version + 1, createdAt := current.createdAt } ∧
          s.checkUnique b = .ok () ∧ t = s.write b)) := by
  obtain ⟨current, hget, h⟩ := bind_eq_ok.1 h
  refine ⟨current, (get_eq_ok hget).2, ?_⟩
  split at h
  · cases h
    exact .inl ⟨by assumption, rfl, rfl⟩
  · rename_i hreplay
    obtain ⟨version, hversion, h⟩ := bind_eq_ok.1 h
    obtain ⟨_, hu, h⟩ := bind_eq_ok.1 h
    cases h
    obtain ⟨rfl, rfl⟩ := Version.next_eq_ok hversion
    exact .inr ⟨Bool.eq_false_iff.2 hreplay, rfl, rfl, hu, rfl⟩

theorem replace_eq_error {s : Store} {ctx : Context} {a : Assignment} {expected : Nat} {f : Fault}
    (h : s.replace ctx a expected = .error f) : Plain f ∨
      ∃ current, s.rows.get? a.id = some current ∧ current.version = expected ∧
        s.checkUnique { a with version := current.version + 1, createdAt := current.createdAt } =
          .error f := by
  rcases bind_eq_error.1 h with h | ⟨current, hget, h⟩
  · exact .inl (get_plain h)
  · split at h
    · cases h
    · rcases bind_eq_error.1 h with h | ⟨version, hversion, h⟩
      · cases Version.next_eq_error h
        exact .inl .stale
      · obtain ⟨rfl, rfl⟩ := Version.next_eq_ok hversion
        rcases bind_eq_error.1 h with h | ⟨_, -, h⟩
        · exact .inr ⟨current, (get_eq_ok hget).2, rfl, h⟩
        · cases h

end Store

end Backoffice.Assignment

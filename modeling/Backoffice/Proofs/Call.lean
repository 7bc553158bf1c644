import Backoffice.Call
import Backoffice.Context
import Backoffice.Version

namespace Backoffice

variable {σ τ α β : Type}

theorem bind_eq_ok {x : Except Fault α} {f : α → Except Fault β} {b : β} :
    x >>= f = .ok b ↔ ∃ a, x = .ok a ∧ f a = .ok b := by
  cases x with
  | error e => simp [bind, Except.bind]
  | ok a => simp [bind, Except.bind]

theorem refuse_eq_ok {c : Prop} [Decidable c] {e : Fault} {f : α → Except Fault β}
    {x : Except Fault β} {b : β} :
    (if c then .error e >>= f else x) = .ok b ↔ ¬c ∧ x = .ok b := by
  split <;> simp_all [bind, Except.bind]

theorem bind_eq_error {x : Except Fault α} {f : α → Except Fault β} {e : Fault} :
    x >>= f = .error e ↔ x = .error e ∨ ∃ a, x = .ok a ∧ f a = .error e := by
  cases x with
  | error e' => simp [bind, Except.bind]
  | ok a => simp [bind, Except.bind]

theorem refuse_eq_error {c : Prop} [Decidable c] {e e' : Fault} {f : α → Except Fault β}
    {x : Except Fault β} :
    (if c then .error e' >>= f else x) = .error e ↔ (c ∧ e' = e) ∨ (¬c ∧ x = .error e) := by
  split <;> simp_all [bind, Except.bind]

theorem error_of_map {x : Except Fault α} {g : α → β} {e : Fault} (h : .error e = g <$> x) :
    x = .error e := by
  cases x with
  | error e' =>
    cases h
    rfl
  | ok a => cases h

theorem Context.ensureActive_eq_ok {ctx : Context} :
    ctx.ensureActive = .ok () ↔ ctx.cancelled = false := by
  unfold Context.ensureActive
  cases ctx.cancelled <;> simp

theorem Context.ensureActive_eq_error {ctx : Context} {f : Fault}
    (h : ctx.ensureActive = .error f) : f = .cancelled := by
  unfold ensureActive at h
  split at h
  · cases h
    rfl
  · cases h

theorem Version.next_eq_error {expected actual : Nat} {stale f : Fault}
    (h : Version.next expected actual stale = .error f) : f = stale := by
  unfold Version.next at h
  split at h
  · cases h
  · cases h
    rfl

theorem Version.next_eq_ok {expected actual version : Nat} {stale : Fault}
    (h : Version.next expected actual stale = .ok version) :
    expected = actual ∧ version = actual + 1 := by
  unfold Version.next at h
  split at h
  · cases h
    exact ⟨by assumption, rfl⟩
  · cases h

theorem Version.requireExpected_eq_error {expected : Nat} {f : Fault}
    (h : Version.requireExpected expected = .error f) :
    ∃ path reason, f = .invalid path reason := by
  unfold Version.requireExpected at h
  split at h
  · cases h
    exact ⟨_, _, rfl⟩
  · cases h

namespace Call

@[simp] theorem pure_apply (a : α) (s : Supply × σ) : (pure a : Call σ α) s = (.ok a, s) := rfl

theorem bind_apply (c : Call σ α) (f : α → Call σ β) (s : Supply × σ) :
    (c >>= f) s = match c s with
      | (.ok a, s') => f a s'
      | (.error e, s') => (.error e, s') := by
  change ExceptT.bindCont f (c s).1 (c s).2 = _
  cases c s with
  | mk r s' => cases r <;> rfl

theorem bind_apply_ok {c : Call σ α} {a : α} {s s' : Supply × σ} (h : c s = (.ok a, s'))
    (f : α → Call σ β) : (c >>= f) s = f a s' := by rw [bind_apply, h]

theorem bind_apply_error {c : Call σ α} {e : Fault} {s s' : Supply × σ}
    (h : c s = (.error e, s')) (f : α → Call σ β) : (c >>= f) s = (.error e, s') := by
  rw [bind_apply, h]

theorem bind_apply_eq_ok {c : Call σ α} {f : α → Call σ β} {s t : Supply × σ} {b : β} :
    (c >>= f) s = (.ok b, t) ↔ ∃ a s', c s = (.ok a, s') ∧ f a s' = (.ok b, t) := by
  rw [bind_apply]
  constructor
  · intro h
    rcases hc : c s with ⟨e | a, s'⟩
    · rw [hc] at h
      cases h
    · rw [hc] at h
      exact ⟨a, s', rfl, h⟩
  · rintro ⟨a, s', hc, h⟩
    rw [hc]
    exact h

@[simp] theorem ofExcept_ok (a : α) : (ofExcept (.ok a) : Call σ α) = pure a := rfl

@[simp] theorem ofExcept_apply (r : Except Fault α) (s : Supply × σ) :
    (ofExcept r : Call σ α) s = (r, s) := by cases r <;> rfl

@[simp] theorem now_apply (s : Supply × σ) :
    (now : Call σ Instant) s = (.ok s.1.now.1, s.1.now.2, s.2) := rfl

@[simp] theorem fresh_apply (s : Supply × σ) :
    (fresh : Call σ String) s = (.ok s.1.fresh.1, s.1.fresh.2, s.2) := rfl

@[simp] theorem state_apply (s : Supply × σ) : state s = (.ok s.2, s) := rfl

@[simp] theorem reads_apply (f : σ → α) (s : Supply × σ) : reads f s = (.ok (f s.2), s) := rfl

@[simp] theorem change_apply (f : σ → σ) (s : Supply × σ) :
    change f s = (.ok (), s.1, f s.2) := rfl

@[simp] theorem asks_apply (f : σ → Except Fault α) (s : Supply × σ) :
    asks f s = (f s.2, s) := ofExcept_apply (f s.2) s

theorem atomic_apply (f : σ → Except Fault (α × σ)) (s : Supply × σ) :
    atomic f s = match f s.2 with
      | .ok (a, t) => (.ok a, s.1, t)
      | .error e => (.error e, s) := by
  rw [atomic, bind_apply, asks_apply]
  cases f s.2 <;> rfl

theorem update_apply (f : σ → Except Fault σ) (s : Supply × σ) :
    update f s = match f s.2 with
      | .ok t => (.ok (), s.1, t)
      | .error e => (.error e, s) := by
  rw [update, bind_apply, asks_apply]
  cases f s.2 <;> rfl

theorem within_apply {part : τ → σ} {replace : σ → τ → τ} (c : Call σ α) (s : Supply × τ) :
    within part replace c s = ((c (s.1, part s.2)).1, (c (s.1, part s.2)).2.1,
      replace (c (s.1, part s.2)).2.2 s.2) := rfl

def Quiet (c : Call σ α) : Prop := ∀ s, (c s).2.2 = s.2

theorem quiet_pure (a : α) : Quiet (pure a : Call σ α) := fun _ => rfl

theorem quiet_throw (e : Fault) : Quiet (throw e : Call σ α) := fun _ => rfl

theorem quiet_ofExcept (r : Except Fault α) : Quiet (ofExcept r : Call σ α) := by
  intro s
  rw [ofExcept_apply]

theorem quiet_now : Quiet (now : Call σ Instant) := fun _ => rfl

theorem quiet_fresh : Quiet (fresh : Call σ String) := fun _ => rfl

theorem quiet_asks (f : σ → Except Fault α) : Quiet (asks f) := by
  intro s
  rw [asks_apply]

theorem Quiet.bind {c : Call σ α} {f : α → Call σ β} (hc : Quiet c) (hf : ∀ a, Quiet (f a)) :
    Quiet (c >>= f) := by
  intro s
  cases h : c s with
  | mk r s' =>
    have hs : s'.2 = s.2 := by rw [← hc s, h]
    cases r with
    | ok a => rw [bind_apply_ok h, hf a s', hs]
    | error e => rw [bind_apply_error h, hs]

end Call

end Backoffice

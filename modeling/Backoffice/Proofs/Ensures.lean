import Backoffice.Proofs.Call

/-!
What a call brings about, whatever supply it finds: a relation of its outcome and the state it
leaves, with one rule for each way to make a call.
-/

namespace Backoffice.Call

variable {σ τ α β : Type}

/-- From state `s` the call ends with an outcome and a state that satisfy `P`. -/
def Ensures (c : Call σ α) (s : σ) (P : Except Fault α → σ → Prop) : Prop :=
  ∀ supply, P (c (supply, s)).1 (c (supply, s)).2.2

variable {s : σ} {P Q : Except Fault α → σ → Prop} {R : Except Fault β → σ → Prop}

theorem Ensures.imp {c : Call σ α} (hc : c.Ensures s P) (h : ∀ r t, P r t → Q r t) :
    c.Ensures s Q := fun supply => h _ _ (hc supply)

theorem Ensures.seq {c : Call σ α} {f : α → Call σ β} (hc : c.Ensures s fun r t => match r with
    | .ok a => (f a).Ensures t R
    | .error e => R (.error e) t) : (c >>= f).Ensures s R := by
  intro supply
  have hp := hc supply
  cases h : c (supply, s) with
  | mk r s' =>
    rw [h] at hp
    cases r with
    | ok a =>
      rw [bind_apply_ok h]
      exact hp s'.1
    | error e =>
      rw [bind_apply_error h]
      exact hp

theorem Ensures.bind {c : Call σ α} {f : α → Call σ β} (hc : c.Ensures s P)
    (hok : ∀ a t, P (.ok a) t → (f a).Ensures t R)
    (herror : ∀ e t, P (.error e) t → R (.error e) t) : (c >>= f).Ensures s R := by
  refine Ensures.seq (hc.imp fun r t hp => ?_)
  cases r with
  | ok a => exact hok a t hp
  | error e => exact herror e t hp

theorem ensures_pure {a : α} (h : P (.ok a) s) : (pure a : Call σ α).Ensures s P := fun _ => h

theorem ensures_throw {e : Fault} (h : P (.error e) s) : (throw e : Call σ α).Ensures s P :=
  fun _ => h

theorem ensures_ofExcept {r : Except Fault α} (hok : ∀ a, r = .ok a → P (.ok a) s)
    (herror : ∀ e, r = .error e → P (.error e) s) : (ofExcept r).Ensures s P := by
  intro supply
  rw [ofExcept_apply]
  cases r with
  | ok a => exact hok a rfl
  | error e => exact herror e rfl

theorem ensures_now {P : Except Fault Instant → σ → Prop} (h : ∀ now, P (.ok now) s) :
    now.Ensures s P := fun supply => h supply.now.1

theorem ensures_fresh {P : Except Fault String → σ → Prop} (h : ∀ id, P (.ok id) s) :
    fresh.Ensures s P := fun supply => h supply.fresh.1

theorem ensures_identifier {P : Except Fault String → σ → Prop}
    (h : ∀ n, P (.ok (Supply.identifier n)) s) : fresh.Ensures s P := fun supply => h supply.drawn

theorem ensures_state {P : Except Fault σ → σ → Prop} (h : P (.ok s) s) : state.Ensures s P :=
  fun _ => h

theorem ensures_reads {f : σ → α} (h : P (.ok (f s)) s) : (reads f).Ensures s P := fun _ => h

theorem ensures_put {P : Except Fault Unit → σ → Prop} {t : σ} (h : P (.ok ()) t) :
    (put t).Ensures s P := fun _ => h

theorem ensures_change {P : Except Fault Unit → σ → Prop} {f : σ → σ} (h : P (.ok ()) (f s)) :
    (change f).Ensures s P := fun _ => h

theorem ensures_asks {f : σ → Except Fault α} (hok : ∀ a, f s = .ok a → P (.ok a) s)
    (herror : ∀ e, f s = .error e → P (.error e) s) : (asks f).Ensures s P :=
  fun supply => ensures_ofExcept hok herror supply

theorem ensures_atomic {f : σ → Except Fault (α × σ)} (hok : ∀ a t, f s = .ok (a, t) → P (.ok a) t)
    (herror : ∀ e, f s = .error e → P (.error e) s) : (atomic f).Ensures s P := by
  intro supply
  rw [atomic_apply]
  split
  · rename_i a t h
    exact hok a t h
  · rename_i e h
    exact herror e h

theorem ensures_update {P : Except Fault Unit → σ → Prop} {f : σ → Except Fault σ}
    (hok : ∀ t, f s = .ok t → P (.ok ()) t) (herror : ∀ e, f s = .error e → P (.error e) s) :
    (update f).Ensures s P := by
  intro supply
  rw [update_apply]
  split
  · rename_i t h
    exact hok t h
  · rename_i e h
    exact herror e h

theorem Ensures.attempt {c : Call σ α} {P : Except Fault (Except Fault α) → σ → Prop}
    (hc : c.Ensures s fun r t => P (.ok r) t) : c.attempt.Ensures s P := fun supply => hc supply

theorem Ensures.within {part : τ → σ} {replace : σ → τ → τ} {c : Call σ α} {t : τ}
    {P : Except Fault α → τ → Prop} (hc : c.Ensures (part t) fun r s => P r (replace s t)) :
    (c.within part replace).Ensures t P := fun supply => hc supply

theorem Ensures.map {c : Call σ α} (f : α → β) (hc : c.Ensures s fun r t => R (f <$> r) t) :
    (f <$> c).Ensures s R := by
  rw [map_eq_pure_bind]
  exact hc.bind (fun _ _ h => ensures_pure h) fun _ _ h => h

theorem Ensures.trans {T : σ → σ → Prop} (htrans : ∀ {s t u}, T s t → T t u → T s u)
    {c : Call σ α} {f : α → Call σ β} (hc : c.Ensures s fun _ t => T s t)
    (hf : ∀ a t, T s t → (f a).Ensures t fun _ u => T t u) :
    (c >>= f).Ensures s fun _ u => T s u :=
  hc.bind (fun a t ht => (hf a t ht).imp fun _ _ hu => htrans ht hu) fun _ _ ht => ht

theorem ensures_forM {f : α → Call σ PUnit} {I : σ → Prop} {as : List α}
    (hf : ∀ a ∈ as, ∀ t, I t → (f a).Ensures t fun _ t' => I t') (hs : I s) :
    (forM as f).Ensures s fun _ t => I t := by
  induction as generalizing s with
  | nil => exact ensures_pure hs
  | cons a as ih =>
    rw [List.forM_cons]
    refine (hf a List.mem_cons_self s hs).bind (fun _ t ht => ?_) fun _ _ ht => ht
    exact ih (fun b hb => hf b (List.mem_cons_of_mem a hb)) ht

theorem ensures_mapM {f : α → Call σ β} {I : σ → Prop} {as : List α}
    (hf : ∀ a ∈ as, ∀ t, I t → (f a).Ensures t fun _ t' => I t') (hs : I s) :
    (as.mapM f).Ensures s fun _ t => I t := by
  induction as generalizing s with
  | nil => exact ensures_pure hs
  | cons a as ih =>
    rw [List.mapM_cons]
    refine (hf a List.mem_cons_self s hs).bind (fun _ t ht => ?_) fun _ _ ht => ht
    refine (ih (fun b hb => hf b (List.mem_cons_of_mem a hb)) ht).bind ?_ fun _ _ hu => hu
    exact fun _ u hu => ensures_pure hu

/-- If the call succeeds from state `s`, its answer and the state it leaves satisfy `Q`. -/
def Gives (c : Call σ α) (s : σ) (Q : α → σ → Prop) : Prop :=
  c.Ensures s fun r t => ∀ a, r = .ok a → Q a t

theorem gives_true {c : Call σ α} : c.Gives s fun _ _ => True := fun _ _ _ => trivial

theorem Gives.bind {c : Call σ α} {f : α → Call σ β} {Q : α → σ → Prop} {R : β → σ → Prop}
    (hc : c.Gives s Q) (hf : ∀ a t, Q a t → (f a).Gives t R) : (c >>= f).Gives s R := by
  refine Ensures.bind hc (fun a t ha => hf a t (ha a rfl)) fun e t _ b hb => ?_
  cases hb

/-- From state `s` the call leaves a state that satisfies `R`, whether it succeeds or fails. -/
abbrev Leaves (c : Call σ α) (s : σ) (R : σ → Prop) : Prop := c.Ensures s fun _ t => R t

theorem Leaves.bind {c : Call σ α} {f : α → Call σ β} {I R : σ → Prop} (hc : c.Leaves s I)
    (hf : ∀ a t, I t → (f a).Leaves t R) (herror : ∀ t, I t → R t) : (c >>= f).Leaves s R :=
  Ensures.bind hc hf fun _ t ht => herror t ht

theorem Leaves.answer {c : Call σ α} {g : α → β} {R : σ → Prop} (hc : c.Leaves s R) :
    (c >>= fun a => pure (g a)).Leaves s R :=
  Leaves.bind hc (fun _ _ ht => ensures_pure ht) fun _ ht => ht

def Answers (c : Call σ α) (s : σ) (a : α) : Prop := ∃ supply, (c (supply, s)).1 = .ok a

@[simp] theorem answers_ofExcept {r : Except Fault α} {a : α} :
    (ofExcept r).Answers s a ↔ r = .ok a :=
  ⟨fun ⟨_, h⟩ => by simpa using h, fun h => ⟨⟨default, 0⟩, by simpa using h⟩⟩

@[simp] theorem answers_asks {f : σ → Except Fault α} {a : α} :
    (asks f).Answers s a ↔ f s = .ok a :=
  ⟨fun ⟨_, h⟩ => by simpa using h, fun h => ⟨⟨default, 0⟩, by simpa using h⟩⟩

theorem Answers.bind {c : Call σ α} {f : α → Call σ β} {b : β} (hc : c.Quiet)
    (h : (c >>= f).Answers s b) : ∃ a, c.Answers s a ∧ (f a).Answers s b := by
  obtain ⟨supply, h⟩ := h
  have hstate : (c (supply, s)).2.2 = s := hc (supply, s)
  rw [bind_apply] at h
  split at h
  · rename_i a s' hcall
    rw [hcall] at hstate
    obtain ⟨supply', t⟩ := s'
    cases hstate
    exact ⟨a, ⟨supply, by rw [hcall]⟩, supply', h⟩
  · cases h

theorem Quiet.leaves {c : Call σ α} {R : σ → Prop} (hc : c.Quiet) (hs : R s) : c.Leaves s R := by
  intro supply
  rwa [hc]

theorem Quiet.before {c : Call σ α} {f : α → Call σ β} {R : σ → Prop} (hc : c.Quiet) (hs : R s)
    (hf : ∀ a, c.Answers s a → (f a).Leaves s R) : (c >>= f).Leaves s R := by
  intro supply
  have hstate := hc (supply, s)
  rw [bind_apply]
  split
  · rename_i a s' hcall
    rw [hcall] at hstate
    obtain ⟨supply', t⟩ := s'
    cases hstate
    exact hf a ⟨supply, by rw [hcall]⟩ supply'
  · rename_i e s' hcall
    rw [hcall] at hstate
    obtain ⟨supply', t⟩ := s'
    cases hstate
    exact hs

abbrev Fails (c : Call σ α) (s : σ) (R : σ → Prop) : Prop :=
  c.Ensures s fun r t => R t ∧ ∃ e, r = .error e

section Fails

variable {c : Call σ α} {f : α → Call σ β} {I R : σ → Prop}

theorem Fails.leaves (hc : c.Fails s R) : c.Leaves s R := hc.imp fun _ _ h => h.1

theorem fails_throw {e : Fault} (hs : R s) : (throw e : Call σ α).Fails s R :=
  ensures_throw ⟨hs, e, rfl⟩

theorem fails_ofExcept {r : Except Fault α} (hr : ∃ e, r = .error e) (hs : R s) :
    (ofExcept r).Fails s R := by
  obtain ⟨e, rfl⟩ := hr
  exact fails_throw hs

theorem fails_asks {g : σ → Except Fault α} (hg : ∃ e, g s = .error e) (hs : R s) :
    (asks g).Fails s R := fun supply => fails_ofExcept hg hs supply

theorem fails_atomic {g : σ → Except Fault (α × σ)} (hg : ∃ e, g s = .error e) (hs : R s) :
    (atomic g).Fails s R := by
  obtain ⟨e, he⟩ := hg
  exact ensures_atomic (fun _ _ h => by cases he.symm.trans h) fun e _ => ⟨hs, e, rfl⟩

theorem fails_update {g : σ → Except Fault σ} (hg : ∃ e, g s = .error e) (hs : R s) :
    (update g).Fails s R := by
  obtain ⟨e, he⟩ := hg
  exact ensures_update (fun _ h => by cases he.symm.trans h) fun e _ => ⟨hs, e, rfl⟩

theorem Fails.bind (hc : c.Fails s R) : (c >>= f).Fails s R := by
  refine Ensures.bind hc ?_ fun e t h => ⟨h.1, e, rfl⟩
  rintro a t ⟨-, e, ⟨⟩⟩

theorem Fails.map (g : α → β) (hc : c.Fails s R) : (g <$> c).Fails s R := by
  rw [map_eq_pure_bind]
  exact hc.bind

theorem Leaves.fails (hc : c.Leaves s I) (hf : ∀ a t, I t → (f a).Fails t R)
    (himp : ∀ t, I t → R t) : (c >>= f).Fails s R :=
  Ensures.bind hc hf fun e t ht => ⟨himp t ht, e, rfl⟩

theorem Quiet.fails (hc : c.Quiet) (hs : R s) (hf : ∀ a, (f a).Fails s R) :
    (c >>= f).Fails s R := by
  refine Leaves.fails (I := fun t => t = s) (hc.leaves rfl) ?_ ?_
  · rintro a _ rfl
    exact hf a
  · rintro _ rfl
    exact hs

end Fails

end Backoffice.Call

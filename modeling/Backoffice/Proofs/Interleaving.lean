import Backoffice.Proofs.Process

/-!
Processes side by side over one state.

A list of turns says who acts next, so that quantifying over it covers every interleaving. A
contract names what each step guarantees and what a process may rely on between its own steps.
Main statements: processes that meet a contract one by one keep it in every interleaving
(`play_allowed`), and an answer is what the process's own steps and events say (`play_does`,
`play_shows`).
-/

namespace Backoffice

variable {ε σ α β : Type}

/-- Calls in progress over a common state. -/
structure World (ε σ α : Type) where
  calls : List (Process ε σ α)
  supply : Supply
  state : σ

/-- Who acts next: a call, or the outer world, which sets clock and identifiers as it likes. -/
inductive Turn where
  | call (i : Nat)
  | supply (next : Supply)

/-- A step that was taken: by whom, what it showed, and the state before and after. -/
structure Moment (ε σ : Type) where
  call : Nat
  event : ε
  before : σ
  after : σ

namespace World

def act (w : World ε σ α) (i : Nat) : Option (Moment ε σ × World ε σ α) :=
  match w.calls[i]? with
  | some (.step act next) =>
    let (event, supply, state) := act (w.supply, w.state)
    some (⟨i, event, w.state, state⟩, ⟨w.calls.set i (next (w.supply, w.state)), supply, state⟩)
  | _ => none

def play (w : World ε σ α) : List Turn → List (Moment ε σ) × World ε σ α
  | [] => ([], w)
  | .supply supply :: turns => play { w with supply } turns
  | .call i :: turns =>
    match w.act i with
    | none => w.play turns
    | some (m, w') => (m :: (w'.play turns).1, (w'.play turns).2)

theorem act_eq_some {w w' : World ε σ α} {i : Nat} {m : Moment ε σ} (h : w.act i = some (m, w')) :
    ∃ act next, w.calls[i]? = some (.step act next) ∧
      m = ⟨i, (act (w.supply, w.state)).1, w.state, (act (w.supply, w.state)).2.2⟩ ∧
      w' = ⟨w.calls.set i (next (w.supply, w.state)), (act (w.supply, w.state)).2.1,
        (act (w.supply, w.state)).2.2⟩ := by
  unfold act at h
  split at h
  · rename_i act next hi
    cases h
    exact ⟨act, next, hi, rfl, rfl⟩
  · cases h

theorem play_call_of_none {w : World ε σ α} {i : Nat} (h : w.act i = none) (turns : List Turn) :
    w.play (.call i :: turns) = w.play turns := by
  rw [play, h]

theorem play_call_of_some {w w' : World ε σ α} {i : Nat} {m : Moment ε σ}
    (h : w.act i = some (m, w')) (turns : List Turn) :
    w.play (.call i :: turns) = (m :: (w'.play turns).1, (w'.play turns).2) := by
  rw [play, h]

end World

structure Contract (ε σ : Type) where
  Inv : σ → Prop
  Rely : σ → σ → Prop
  Guar : ε → σ → σ → Prop
  refl : ∀ s, Rely s s
  trans : ∀ {s t u}, Rely s t → Rely t u → Rely s u
  keeps : ∀ {e s t}, Inv s → Guar e s t → Inv t ∧ Rely s t

def Contract.free (Guar : ε → σ → σ → Prop) : Contract ε σ where
  Inv _ := True
  Rely _ _ := True
  Guar := Guar
  refl _ := trivial
  trans _ _ := trivial
  keeps _ _ := ⟨trivial, trivial⟩

namespace Process

variable {C : Contract ε σ}

def Meets (C : Contract ε σ) (Q : Except Fault α → σ → Prop) : Process ε σ α → σ → Prop
  | done r, s => Q r s
  | step act next, s => ∀ supply t, C.Inv t → C.Rely s t →
      C.Guar (act (supply, t)).1 t (act (supply, t)).2.2 ∧
        (next (supply, t)).Meets C Q (act (supply, t)).2.2

abbrev Keeps (C : Contract ε σ) (p : Process ε σ α) (s : σ) : Prop :=
  p.Meets C (fun _ _ => True) s

theorem Keeps.later {p : Process ε σ α} {s t : σ} (h : p.Keeps C s) (hst : C.Rely s t) :
    p.Keeps C t := by
  cases p with
  | done r => trivial
  | step act next => exact fun supply u hinv htu => h supply u hinv (C.trans hst htu)

theorem Keeps.weaken {C' : Contract ε σ} {p : Process ε σ α} {s : σ} (h : p.Keeps C s)
    (hinv : ∀ {t}, C'.Inv t → C.Inv t) (hrely : ∀ {t u}, C'.Rely t u → C.Rely t u)
    (hguar : ∀ {e t u}, C.Guar e t u → C'.Guar e t u) : p.Keeps C' s := by
  induction p generalizing s with
  | done r => trivial
  | step act next ih =>
    intro supply t ht hst
    obtain ⟨hstep, hnext⟩ := h supply t (hinv ht) (hrely hst)
    exact ⟨hguar hstep, ih _ hnext⟩

theorem Keeps.of_free {p : Process ε σ α} {s : σ} (h : p.Keeps (.free C.Guar) s) :
    p.Keeps C s :=
  h.weaken (fun _ => trivial) (fun _ => trivial) id

theorem Keeps.and {G G' : ε → σ → σ → Prop} {p : Process ε σ α} {s : σ}
    (h : p.Keeps (.free G) s) (h' : p.Keeps (.free G') s) :
    p.Keeps (.free fun e t u => G e t u ∧ G' e t u) s := by
  induction p generalizing s with
  | done r => trivial
  | step act next ih =>
    intro supply t hinv hrely
    obtain ⟨hstep, hnext⟩ := h supply t hinv hrely
    obtain ⟨hstep', hnext'⟩ := h' supply t hinv hrely
    exact ⟨⟨hstep, hstep'⟩, ih _ hnext hnext'⟩

theorem meets_atomically {Q : Except Fault α → σ → Prop} {c : Call σ α}
    {shown : Except Fault α → ε} {s : σ}
    (h : ∀ supply t, C.Inv t → C.Rely s t →
      C.Guar (shown (c (supply, t)).1) t (c (supply, t)).2.2 ∧
        Q (c (supply, t)).1 (c (supply, t)).2.2) :
    (atomically c shown).Meets C Q s := h

theorem Meets.bind {Q : Except Fault α → σ → Prop} {Q' : Except Fault β → σ → Prop}
    {p : Process ε σ α} {f : α → Process ε σ β} {s : σ} (hp : p.Meets C Q s)
    (hok : ∀ a t, Q (.ok a) t → (f a).Meets C Q' t)
    (herror : ∀ e t, Q (.error e) t → Q' (.error e) t) : (p >>= f).Meets C Q' s := by
  induction p generalizing s with
  | done r =>
    cases r with
    | ok a => exact hok a s hp
    | error e => exact herror e s hp
  | step act next ih =>
    intro supply t hinv hrely
    exact ⟨(hp supply t hinv hrely).1, ih _ (hp supply t hinv hrely).2⟩

theorem Keeps.bind {p : Process ε σ α} {f : α → Process ε σ β} {s : σ} (hp : p.Keeps C s)
    (hf : ∀ a t, (f a).Keeps C t) : (p >>= f).Keeps C s :=
  Meets.bind hp (fun a t _ => hf a t) fun _ _ _ => trivial

theorem Keeps.map {p : Process ε σ α} {s : σ} (hp : p.Keeps C s) (f : α → β) :
    (f <$> p).Keeps C s := by
  rw [map_eq_pure_bind]
  exact hp.bind fun _ _ => trivial

theorem Keeps.attempt {p : Process ε σ α} {s : σ} (hp : p.Keeps C s) : p.attempt.Keeps C s := by
  induction p generalizing s with
  | done r => trivial
  | step act next ih =>
    intro supply t hinv hrely
    exact ⟨(hp supply t hinv hrely).1, ih _ (hp supply t hinv hrely).2⟩

theorem keeps_mapM {f : α → Process ε σ β} (hf : ∀ a t, (f a).Keeps C t) (as : List α) (s : σ) :
    (as.mapM f).Keeps C s := by
  induction as generalizing s with
  | nil => trivial
  | cons a as ih =>
    rw [List.mapM_cons]
    exact (hf a s).bind fun _ t => (ih t).bind fun _ _ => trivial

theorem keeps_forM {f : α → Process ε σ PUnit} (hf : ∀ a t, (f a).Keeps C t) (as : List α)
    (s : σ) : (forM as f).Keeps C s := by
  induction as generalizing s with
  | nil => trivial
  | cons a as ih =>
    rw [List.forM_cons]
    exact (hf a s).bind fun _ t => ih t

theorem Keeps.run {p : Process ε σ α} {s : σ} (h : p.Keeps C s) (supply : Supply)
    (hinv : C.Inv s) : C.Inv (p.run (supply, s)).2.2 ∧ C.Rely s (p.run (supply, s)).2.2 := by
  induction p generalizing s supply with
  | done r => exact ⟨hinv, C.refl s⟩
  | step act next ih =>
    obtain ⟨hguar, hnext⟩ := h supply s hinv (C.refl s)
    obtain ⟨hinv', hst⟩ := C.keeps hinv hguar
    obtain ⟨hinv'', htu⟩ := ih _ hnext (act (supply, s)).2.1 hinv'
    exact ⟨hinv'', C.trans hst htu⟩

end Process

namespace Contract

def Allows (C : Contract ε σ) : σ → List (Moment ε σ) → σ → Prop
  | s, [], t => s = t
  | s, m :: ms, t => m.before = s ∧ C.Guar m.event s m.after ∧ C.Allows m.after ms t

variable {C : Contract ε σ}

theorem Allows.keeps {s t : σ} {ms : List (Moment ε σ)} (h : C.Allows s ms t) (hinv : C.Inv s) :
    C.Inv t ∧ C.Rely s t := by
  induction ms generalizing s with
  | nil =>
    cases h
    exact ⟨hinv, C.refl _⟩
  | cons m ms ih =>
    obtain ⟨-, hguar, hrest⟩ := h
    obtain ⟨hinv', hst⟩ := C.keeps hinv hguar
    obtain ⟨hinv'', htu⟩ := ih hrest hinv'
    exact ⟨hinv'', C.trans hst htu⟩

theorem Allows.moment {s t : σ} {ms : List (Moment ε σ)} (h : C.Allows s ms t) (hinv : C.Inv s)
    {m : Moment ε σ} (hm : m ∈ ms) :
    C.Inv m.before ∧ C.Rely s m.before ∧ C.Guar m.event m.before m.after := by
  induction ms generalizing s with
  | nil => cases hm
  | cons m' ms ih =>
    obtain ⟨rfl, hguar, hrest⟩ := h
    obtain ⟨hinv', hrely⟩ := C.keeps hinv hguar
    cases hm with
    | head => exact ⟨hinv, C.refl _, hguar⟩
    | tail _ hm =>
      obtain ⟨hinv'', hrely', hguar'⟩ := ih hrest hinv' hm
      exact ⟨hinv'', C.trans hrely hrely', hguar'⟩

theorem Allows.invariant {I : σ → Prop} {s t : σ} {ms : List (Moment ε σ)} (h : C.Allows s ms t)
    (hinv : C.Inv s) (hs : I s) (hstep : ∀ {e s t}, C.Inv s → C.Guar e s t → I s → I t) :
    I t ∧ ∀ m ∈ ms, I m.before := by
  induction ms generalizing s with
  | nil =>
    cases h
    exact ⟨hs, by simp⟩
  | cons m ms ih =>
    obtain ⟨rfl, hguar, hrest⟩ := h
    obtain ⟨hend, hbefore⟩ := ih hrest (C.keeps hinv hguar).1 (hstep hinv hguar hs)
    exact ⟨hend, by simpa using ⟨hs, hbefore⟩⟩

theorem Allows.pairwise {R : σ → σ → Prop} {s t : σ} {ms : List (Moment ε σ)}
    (h : C.Allows s ms t) (hinv : C.Inv s) (htrans : ∀ {s t u}, R s t → R t u → R s u)
    (hstep : ∀ {e s t}, C.Inv s → C.Guar e s t → R s t) :
    (ms.map (·.before) ++ [t]).Pairwise R := by
  induction ms generalizing s with
  | nil => exact List.pairwise_singleton R t
  | cons m ms ih =>
    obtain ⟨rfl, hguar, hrest⟩ := h
    have hinv' := (C.keeps hinv hguar).1
    refine .cons ?_ (ih hrest hinv')
    obtain ⟨hend, hbefore⟩ := hrest.invariant hinv' (hstep hinv hguar)
      fun hinv hguar hmt => htrans hmt (hstep hinv hguar)
    simpa [or_imp, forall_and] using ⟨hbefore, hend⟩

theorem Allows.append {s t : σ} {ms ms' : List (Moment ε σ)} (h : C.Allows s (ms ++ ms') t) :
    ∃ u, C.Allows s ms u ∧ C.Allows u ms' t := by
  induction ms generalizing s with
  | nil => exact ⟨s, rfl, h⟩
  | cons m ms ih =>
    obtain ⟨hbefore, hguar, hrest⟩ := h
    obtain ⟨u, hms, hms'⟩ := ih hrest
    exact ⟨u, ⟨hbefore, hguar, hms⟩, hms'⟩

theorem Allows.between {s t : σ} {earlier between later : List (Moment ε σ)} {m m' : Moment ε σ}
    (h : C.Allows s (earlier ++ m :: (between ++ m' :: later)) t) :
    C.Allows m.before (m :: between) m'.before := by
  obtain ⟨u, -, h⟩ := h.append
  rw [← List.cons_append] at h
  obtain ⟨v, hbetween, hlater, -⟩ := h.append
  rw [hlater]
  rwa [hbetween.1]

theorem Allows.weaken {D : Contract ε σ} {s t : σ} {ms : List (Moment ε σ)} (h : C.Allows s ms t)
    (hguar : ∀ {e s t}, C.Guar e s t → D.Guar e s t) : D.Allows s ms t := by
  induction ms generalizing s with
  | nil => exact h
  | cons m ms ih =>
    obtain ⟨hbefore, hm, hrest⟩ := h
    exact ⟨hbefore, hguar hm, ih hrest⟩

theorem Allows.closed {R : σ → σ → Prop} {s t : σ} {ms : List (Moment ε σ)} (h : C.Allows s ms t)
    (hrefl : ∀ s, R s s) (htrans : ∀ {s t u}, R s t → R t u → R s u)
    (hstep : ∀ m ∈ ms, C.Guar m.event m.before m.after → R m.before m.after) : R s t := by
  induction ms generalizing s with
  | nil =>
    cases h
    exact hrefl _
  | cons m ms ih =>
    obtain ⟨rfl, hguar, hrest⟩ := h
    exact htrans (hstep m List.mem_cons_self hguar)
      (ih hrest fun m' hm' => hstep m' (List.mem_cons_of_mem m hm'))

end Contract

namespace World

variable {C : Contract ε σ}

theorem play_allowed (w : World ε σ α) (turns : List Turn) (hinv : C.Inv w.state)
    (hcalls : ∀ p ∈ w.calls, p.Keeps C w.state) :
    C.Allows w.state (w.play turns).1 (w.play turns).2.state := by
  induction turns generalizing w with
  | nil => rfl
  | cons turn turns ih =>
    cases turn with
    | supply supply => exact ih { w with supply } hinv hcalls
    | call i =>
      cases h : w.act i with
      | none =>
        rw [play_call_of_none h]
        exact ih w hinv hcalls
      | some taken =>
        obtain ⟨m, w'⟩ := taken
        rw [play_call_of_some h]
        obtain ⟨act, next, hi, rfl, rfl⟩ := act_eq_some h
        obtain ⟨hguar, hnext⟩ :=
          hcalls _ (List.mem_of_getElem? hi) w.supply w.state hinv (C.refl _)
        obtain ⟨hinv', hrely⟩ := C.keeps hinv hguar
        refine ⟨rfl, hguar, ?_⟩
        apply ih ⟨w.calls.set i (next (w.supply, w.state)), _, _⟩ hinv'
        intro p hp
        rcases List.mem_or_eq_of_mem_set hp with hp | rfl
        · exact (hcalls p hp).later hrely
        · exact hnext

end World

def eventsOf (i : Nat) (ms : List (Moment ε σ)) : List ε :=
  (ms.filter (·.call == i)).map (·.event)

theorem mem_eventsOf {i : Nat} {ms : List (Moment ε σ)} {e : ε} :
    e ∈ eventsOf i ms ↔ ∃ m ∈ ms, m.call = i ∧ m.event = e := by
  simp [eventsOf, and_assoc]

namespace Process

def isDone : Process ε σ α → Bool
  | done _ => true
  | step _ _ => false

theorem eq_done_of_isDone {p : Process ε σ α} (h : p.isDone = true) : ∃ r, p = done r := by
  cases p with
  | done r => exact ⟨r, rfl⟩
  | step act next => cases h

def Shows : Process ε σ α → (List ε → Except Fault α → Prop) → Prop
  | done r, P => P [] r
  | step act next, P => ∀ s, (next s).Shows fun es r => P ((act s).1 :: es) r

theorem shows_atomically {c : Call σ α} {shown : Except Fault α → ε}
    {P : List ε → Except Fault α → Prop} (h : ∀ s, P [shown (c s).1] (c s).1) :
    (atomically c shown).Shows P := h

theorem Shows.bind {P : List ε → Except Fault α → Prop} {P' : List ε → Except Fault β → Prop}
    {p : Process ε σ α} {f : α → Process ε σ β} (hp : p.Shows P)
    (hok : ∀ es a, P es (.ok a) → (f a).Shows fun es' r => P' (es ++ es') r)
    (herror : ∀ es e, P es (.error e) → P' es (.error e)) : (p >>= f).Shows P' := by
  induction p generalizing P P' with
  | done r =>
    cases r with
    | ok a => exact hok [] a hp
    | error e => exact herror [] e hp
  | step act next ih =>
    intro s
    exact ih s (hp s) (fun es => hok ((act s).1 :: es)) fun es => herror ((act s).1 :: es)

theorem Shows.imp {P P' : List ε → Except Fault α → Prop} {p : Process ε σ α} (hp : p.Shows P)
    (h : ∀ es r, P es r → P' es r) : p.Shows P' := by
  induction p generalizing P P' with
  | done r => exact h [] r hp
  | step act next ih =>
    intro s
    exact ih s (hp s) fun es => h ((act s).1 :: es)

theorem Shows.map {P : List ε → Except Fault α → Prop} {p : Process ε σ α} (hp : p.Shows P)
    (f : α → β) : (f <$> p).Shows fun es r => ∃ x, P es x ∧ r = f <$> x := by
  rw [map_eq_pure_bind]
  apply hp.bind
  · intro es a ha
    exact ⟨.ok a, by simpa using ha, rfl⟩
  · intro es e he
    exact ⟨.error e, he, rfl⟩

theorem Shows.attempt {P : List ε → Except Fault α → Prop}
    {P' : List ε → Except Fault (Except Fault α) → Prop} {p : Process ε σ α} (hp : p.Shows P)
    (h : ∀ es r, P es r → P' es (.ok r)) : p.attempt.Shows P' := by
  induction p generalizing P P' with
  | done r => exact h [] r hp
  | step act next ih =>
    intro s
    exact ih s (hp s) fun es => h ((act s).1 :: es)

def Does (i : Nat) : Process ε σ α → (List (Moment ε σ) → Except Fault α → Prop) → Prop
  | done r, P => P [] r
  | step act next, P => ∀ s, (next s).Does i fun ms r =>
      P (⟨i, (act s).1, s.2, (act s).2.2⟩ :: ms) r

theorem does_atomically {i : Nat} {c : Call σ α} {shown : Except Fault α → ε}
    {P : List (Moment ε σ) → Except Fault α → Prop}
    (h : ∀ s, P [⟨i, shown (c s).1, s.2, (c s).2.2⟩] (c s).1) : (atomically c shown).Does i P := h

theorem Does.bind {i : Nat} {P : List (Moment ε σ) → Except Fault α → Prop}
    {P' : List (Moment ε σ) → Except Fault β → Prop} {p : Process ε σ α} {f : α → Process ε σ β}
    (hp : p.Does i P) (hok : ∀ ms a, P ms (.ok a) → (f a).Does i fun ms' r => P' (ms ++ ms') r)
    (herror : ∀ ms e, P ms (.error e) → P' ms (.error e)) : (p >>= f).Does i P' := by
  induction p generalizing P P' with
  | done r =>
    cases r with
    | ok a => exact hok [] a hp
    | error e => exact herror [] e hp
  | step act next ih =>
    intro s
    exact ih s (hp s) (fun ms => hok (_ :: ms)) fun ms => herror (_ :: ms)

theorem Does.imp {i : Nat} {P P' : List (Moment ε σ) → Except Fault α → Prop} {p : Process ε σ α}
    (hp : p.Does i P) (h : ∀ ms r, P ms r → P' ms r) : p.Does i P' := by
  induction p generalizing P P' with
  | done r => exact h [] r hp
  | step act next ih =>
    intro s
    exact ih s (hp s) fun ms => h (_ :: ms)

theorem Does.map {i : Nat} {P : List (Moment ε σ) → Except Fault α → Prop} {p : Process ε σ α}
    (hp : p.Does i P) (f : α → β) : (f <$> p).Does i fun ms r => ∃ x, P ms x ∧ r = f <$> x := by
  rw [map_eq_pure_bind]
  apply hp.bind
  · intro ms a ha
    exact ⟨.ok a, by simpa using ha, rfl⟩
  · intro ms e he
    exact ⟨.error e, he, rfl⟩

def Proceeds (i : Nat) : Process ε σ α →
    (List (Moment ε σ) → Option (Except Fault α) → Prop) → Prop
  | done r, P => P [] (some r)
  | step act next, P => P [] none ∧ ∀ s, (next s).Proceeds i fun ms x =>
      P (⟨i, (act s).1, s.2, (act s).2.2⟩ :: ms) x

def answer? : Process ε σ α → Option (Except Fault α)
  | done r => some r
  | step _ _ => none

theorem Proceeds.start {i : Nat} {P : List (Moment ε σ) → Option (Except Fault α) → Prop}
    {p : Process ε σ α} (hp : p.Proceeds i P) : P [] p.answer? := by
  cases p with
  | done r => exact hp
  | step act next => exact hp.1

@[simp] theorem proceeds_pure {i : Nat} {P : List (Moment ε σ) → Option (Except Fault α) → Prop}
    {a : α} : (pure a : Process ε σ α).Proceeds i P ↔ P [] (some (.ok a)) := Iff.rfl

theorem proceeds_atomically {i : Nat} {c : Call σ α} {shown : Except Fault α → ε}
    {P : List (Moment ε σ) → Option (Except Fault α) → Prop} (hnone : P [] none)
    (h : ∀ s, P [⟨i, shown (c s).1, s.2, (c s).2.2⟩] (some (c s).1)) :
    (atomically c shown).Proceeds i P := ⟨hnone, h⟩

theorem Proceeds.bind {i : Nat} {P : List (Moment ε σ) → Option (Except Fault α) → Prop}
    {P' : List (Moment ε σ) → Option (Except Fault β) → Prop} {p : Process ε σ α}
    {f : α → Process ε σ β} (hp : p.Proceeds i P)
    (hok : ∀ ms a, P ms (some (.ok a)) → (f a).Proceeds i fun ms' x => P' (ms ++ ms') x)
    (herror : ∀ ms e, P ms (some (.error e)) → P' ms (some (.error e)))
    (hnone : ∀ ms, P ms none → P' ms none) : (p >>= f).Proceeds i P' := by
  induction p generalizing P P' with
  | done r =>
    cases r with
    | ok a => exact hok [] a hp
    | error e => exact herror [] e hp
  | step act next ih =>
    refine ⟨hnone [] hp.1, fun s => ?_⟩
    exact ih s (hp.2 s) (fun ms => hok (_ :: ms)) (fun ms => herror (_ :: ms))
      fun ms => hnone (_ :: ms)

theorem Proceeds.imp {i : Nat} {P P' : List (Moment ε σ) → Option (Except Fault α) → Prop}
    {p : Process ε σ α} (hp : p.Proceeds i P) (h : ∀ ms x, P ms x → P' ms x) : p.Proceeds i P' := by
  induction p generalizing P P' with
  | done r => exact h [] (some r) hp
  | step act next ih => exact ⟨h [] none hp.1, fun s => ih s (hp.2 s) fun ms => h (_ :: ms)⟩

theorem proceeds_of_forall {i : Nat} {P : List (Moment ε σ) → Option (Except Fault α) → Prop}
    (p : Process ε σ α) (h : ∀ ms x, P ms x) : p.Proceeds i P := by
  induction p generalizing P with
  | done r => exact h [] (some r)
  | step act next ih => exact ⟨h [] none, fun s => ih s fun ms => h (_ :: ms)⟩

theorem Shows.does {P : List ε → Except Fault α → Prop} {p : Process ε σ α} (hp : p.Shows P)
    (i : Nat) : p.Does i fun ms r => P (ms.map (·.event)) r := by
  induction p generalizing P with
  | done r => exact hp
  | step act next ih =>
    intro s
    exact ih s (hp s)

end Process

namespace World

theorem play_does (w : World ε σ α) (turns : List Turn) {i : Nat} {p : Process ε σ α}
    {P : List (Moment ε σ) → Except Fault α → Prop} {r : Except Fault α}
    (hi : w.calls[i]? = some p) (hp : p.Does i P)
    (hr : (w.play turns).2.calls[i]? = some (.done r)) :
    P ((w.play turns).1.filter (·.call == i)) r := by
  induction turns generalizing w p P with
  | nil =>
    cases hi.symm.trans hr
    exact hp
  | cons turn turns ih =>
    cases turn with
    | supply supply => exact ih { w with supply } hi hp hr
    | call j =>
      cases h : w.act j with
      | none =>
        rw [play_call_of_none h] at hr ⊢
        exact ih w hi hp hr
      | some taken =>
        obtain ⟨m, w'⟩ := taken
        rw [play_call_of_some h] at hr ⊢
        obtain ⟨act, next, hj, rfl, rfl⟩ := act_eq_some h
        by_cases hij : j = i
        · subst hij
          cases hi.symm.trans hj
          have hlt : j < w.calls.length := (List.getElem?_eq_some_iff.1 hj).1
          simpa using ih _ (List.getElem?_set_self hlt) (hp (w.supply, w.state)) hr
        · have hset : (w.calls.set j (next (w.supply, w.state)))[i]? = some p :=
            (List.getElem?_set_ne hij).trans hi
          simpa [hij] using ih _ hset hp hr

theorem play_proceeds (w : World ε σ α) (turns : List Turn) {i : Nat} {p : Process ε σ α}
    {P : List (Moment ε σ) → Option (Except Fault α) → Prop} (hi : w.calls[i]? = some p)
    (hp : p.Proceeds i P) :
    P ((w.play turns).1.filter (·.call == i)) ((w.play turns).2.calls[i]?.bind (·.answer?)) := by
  induction turns generalizing w p P with
  | nil =>
    rw [play, hi]
    exact hp.start
  | cons turn turns ih =>
    cases turn with
    | supply supply => exact ih { w with supply } hi hp
    | call j =>
      cases h : w.act j with
      | none =>
        rw [play_call_of_none h]
        exact ih w hi hp
      | some taken =>
        obtain ⟨m, w'⟩ := taken
        rw [play_call_of_some h]
        obtain ⟨act, next, hj, rfl, rfl⟩ := act_eq_some h
        by_cases hij : j = i
        · subst hij
          cases hi.symm.trans hj
          have hlt : j < w.calls.length := (List.getElem?_eq_some_iff.1 hj).1
          simpa using ih _ (List.getElem?_set_self hlt) (hp.2 (w.supply, w.state))
        · have hset : (w.calls.set j (next (w.supply, w.state)))[i]? = some p :=
            (List.getElem?_set_ne hij).trans hi
          simpa [hij] using ih _ hset hp

def finished (w : World ε σ α) : Bool := w.calls.all (·.isDone)

theorem play_length (w : World ε σ α) (turns : List Turn) :
    (w.play turns).2.calls.length = w.calls.length := by
  induction turns generalizing w with
  | nil => rfl
  | cons turn turns ih =>
    cases turn with
    | supply supply => exact ih { w with supply }
    | call i =>
      cases h : w.act i with
      | none =>
        rw [play_call_of_none h]
        exact ih w
      | some taken =>
        obtain ⟨m, w'⟩ := taken
        rw [play_call_of_some h]
        obtain ⟨act, next, -, rfl, rfl⟩ := act_eq_some h
        simp [ih]

theorem call_lt_length {w : World ε σ α} {turns : List Turn} {m : Moment ε σ}
    (hm : m ∈ (w.play turns).1) : m.call < w.calls.length := by
  induction turns generalizing w with
  | nil => cases hm
  | cons turn turns ih =>
    cases turn with
    | supply supply => exact ih (w := { w with supply }) hm
    | call i =>
      cases h : w.act i with
      | none =>
        rw [play_call_of_none h] at hm
        exact ih hm
      | some taken =>
        obtain ⟨m', w'⟩ := taken
        rw [play_call_of_some h] at hm
        obtain ⟨act, next, hi, rfl, rfl⟩ := act_eq_some h
        rcases List.mem_cons.1 hm with rfl | hm
        · exact (List.getElem?_eq_some_iff.1 hi).1
        · simpa using ih hm

theorem play_does_of_mem (w : World ε σ α) (turns : List Turn)
    (hdone : (w.play turns).2.finished = true) {m : Moment ε σ} (hm : m ∈ (w.play turns).1) :
    ∃ p r, w.calls[m.call]? = some p ∧ (w.play turns).2.calls[m.call]? = some (.done r) ∧
      ∀ P, p.Does m.call P → P ((w.play turns).1.filter (·.call == m.call)) r := by
  have hlt := call_lt_length hm
  have hlt' : m.call < (w.play turns).2.calls.length := by rwa [play_length]
  have hisDone := List.all_eq_true.1 hdone _ (List.getElem_mem hlt')
  obtain ⟨r, hr⟩ := Process.eq_done_of_isDone hisDone
  have hr : (w.play turns).2.calls[m.call]? = some (.done r) := by
    rw [List.getElem?_eq_getElem hlt', hr]
  exact ⟨_, r, List.getElem?_eq_getElem hlt, hr, fun P hp =>
    w.play_does turns (List.getElem?_eq_getElem hlt) hp hr⟩

theorem play_shows (w : World ε σ α) (turns : List Turn) {i : Nat} {p : Process ε σ α}
    {P : List ε → Except Fault α → Prop} {r : Except Fault α} (hi : w.calls[i]? = some p)
    (hp : p.Shows P) (hr : (w.play turns).2.calls[i]? = some (.done r)) :
    P (eventsOf i (w.play turns).1) r :=
  w.play_does turns hi (hp.does i) hr

end World

end Backoffice

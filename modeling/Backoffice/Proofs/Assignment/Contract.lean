import Backoffice.Proofs.Assignment.Basic
import Backoffice.Proofs.Assignment.Steps

/-!
What the steps of the queue may do to the store.

The row an operation works on is a copy, and may be outdated by the time it is written. Since no row
is lost and every write raises the version, the store accepts a copy only in place of the row it was
made from (`commit_allowed`).
-/

namespace Backoffice.Assignment.Queue

structure Repeats (q : Request) (row : Assignment) : Prop where
  keyed : q.action.key.isSome
  key : row.lastKey = q.action.key
  operation : row.lastOperation = some q.op.text

def Request.mark (q : Request) (next : Assignment) (now : Instant) : Assignment :=
  { next with
    updatedAt := now
    lastKey := q.action.key
    lastOperation := q.action.key.map fun _ => q.op.text }

structure Advances (q : Request) (current row : Assignment) : Prop where
  expected : current.version = q.action.expectedVersion
  applied : ∃ now next, q.op.apply current q.filled now = .ok next ∧
    row = { q.mark next now with version := current.version + 1 }

theorem Advances.frame {q : Request} {current row : Assignment} (h : Advances q current row) :
    row = { current with
      pool := row.pool, status := row.status, assigneeId := row.assigneeId,
      assignerId := row.assignerId, reviewerId := row.reviewerId,
      rejectionReason := row.rejectionReason, claimedAt := row.claimedAt,
      submittedAt := row.submittedAt, reviewedAt := row.reviewedAt, publishedAt := row.publishedAt,
      archivedAt := row.archivedAt, updatedAt := row.updatedAt, lastKey := q.action.key,
      lastOperation := q.action.key.map fun _ => q.op.text, version := current.version + 1 } := by
  obtain ⟨now, next, happly, rfl⟩ := h.applied
  rw [Request.mark, Operation.apply_frame happly]

theorem Advances.id {q : Request} {current row : Assignment} (h : Advances q current row) :
    row.id = current.id := by rw [h.frame]

theorem Advances.version {q : Request} {current row : Assignment} (h : Advances q current row) :
    row.version = current.version + 1 := by rw [h.frame]

theorem prepare_eq_ok {op : Operation} {action : Action} {current : Assignment} {now : Instant}
    {plan : Plan} (h : prepare op action current now = .ok plan) :
    (plan = .replay current ∧ action.key.isSome ∧ current.lastKey = action.key ∧
        current.lastOperation = some op.text) ∨
      ∃ next, current.version = action.expectedVersion ∧ op.apply current action now = .ok next ∧
        plan = .write { next with
          updatedAt := now, lastKey := action.key,
          lastOperation := action.key.map fun _ => op.text } := by
  unfold prepare at h
  split at h
  · rename_i hkey
    rw [Bool.and_eq_true, beq_iff_eq] at hkey
    split at h
    · rename_i hop
      cases h
      exact .inl ⟨rfl, hkey.1, hkey.2.symm, beq_iff_eq.1 hop⟩
    · cases h
  · split at h
    · cases h
    · rename_i hversion
      obtain ⟨next, happly, h⟩ := bind_eq_ok.1 h
      cases h
      exact .inr ⟨next, by simpa using hversion, happly, rfl⟩

theorem prepare_eq_error {op : Operation} {action : Action} {current : Assignment} {now : Instant}
    {f : Fault} (h : prepare op action current now = .error f) :
    Plain f ∨ op.apply current action now = .error f := by
  unfold prepare at h
  split at h
  · split at h <;> cases h
    exact .inl .invalid
  · split at h
    · cases h
      exact .inl .stale
    · rcases bind_eq_error.1 h with h | ⟨next, -, h⟩
      · exact .inr h
      · cases h

theorem prepare_of_repeats {op : Operation} {action : Action} {current : Assignment} (now : Instant)
    (hkeyed : action.key.isSome) (hkey : current.lastKey = action.key)
    (hop : current.lastOperation = some op.text) :
    prepare op action current now = .ok (.replay current) := by
  simp [prepare, hkeyed, hkey, hop]

theorem letIn_plain {ctx : Context} {action : Action} {f : Fault}
    (h : letIn ctx action = .error f) : Plain f := by
  rcases bind_eq_error.1 h with h | ⟨_, -, h⟩
  · exact .of_ensureActive h
  · rcases bind_eq_error.1 h with h | ⟨_, -, h⟩
    · exact Action.validate_plain h
    · cases h

theorem look_apply (q : Request) (supply : Supply) (s : Store) :
    (look q (supply, s)).2.2 = s ∧
      (look q (supply, s)).1 = (letIn q.ctx q.action >>= fun action =>
        s.get q.ctx action.id >>= fun current => prepare q.op action current supply.now.1) := by
  simp only [look, Call.bind_apply, Call.ofExcept_apply, Call.asks_apply, Call.now_apply]
  cases letIn q.ctx q.action with
  | error f => exact ⟨rfl, rfl⟩
  | ok action =>
    dsimp only
    cases hget : s.get q.ctx action.id with
    | error f => simp [hget, bind, Except.bind]
    | ok current => simp [hget, bind, Except.bind]

theorem execute_cases (q : Request) (supply : Supply) (s : Store) :
    (∃ f supply', (look q (supply, s)).1 = .error f ∧
        execute q.ctx q.op q.action (supply, s) = (.error f, supply', s)) ∨
      (∃ row supply', (look q (supply, s)).1 = .ok (.replay row) ∧
        execute q.ctx q.op q.action (supply, s) = (.ok row, supply', s)) ∨
      ∃ row supply', (look q (supply, s)).1 = .ok (.write row) ∧
        execute q.ctx q.op q.action (supply, s) = commit q row (supply', s) := by
  have hquiet := (look_apply q supply s).1
  rw [execute_eq, Call.bind_apply]
  generalize look q (supply, s) = looked at hquiet
  obtain ⟨r, supply', t⟩ := looked
  cases hquiet
  cases r with
  | error f => exact .inl ⟨f, supply', rfl, rfl⟩
  | ok plan =>
    cases plan with
    | replay row => exact .inr (.inl ⟨row, supply', rfl, rfl⟩)
    | write row => exact .inr (.inr ⟨row, supply', rfl, rfl⟩)

theorem look_eq_error {q : Request} {supply : Supply} {s : Store} {f : Fault}
    (h : (look q (supply, s)).1 = .error f) : Plain f ∨ ∃ current now,
      s.rows.get? q.action.id = some current ∧ q.op.apply current q.filled now = .error f := by
  rw [(look_apply q supply s).2] at h
  rcases bind_eq_error.1 h with h | ⟨action, hlet, h⟩
  · exact .inl (letIn_plain h)
  · obtain ⟨-, rfl, -⟩ := letIn_eq_ok hlet
    rcases bind_eq_error.1 h with h | ⟨current, hget, h⟩
    · exact .inl (Store.get_plain h)
    · rcases prepare_eq_error h with h | h
      · exact .inl h
      · exact .inr ⟨current, _, (Store.get_eq_ok hget).2, h⟩

theorem look_not_taken {q : Request} {supply : Supply} {s : Store} {f : Fault}
    (h : (look q (supply, s)).1 = .error f) : ¬Taken f := by
  rcases look_eq_error h with h | ⟨current, now, -, h⟩
  · exact h.not_taken
  · exact Operation.apply_not_taken h

def Pending (q : Request) (row : Assignment) (s : Store) : Prop :=
  ∃ current now next, s.rows.get? q.action.id = some current ∧
    current.version = q.action.expectedVersion ∧
    q.op.apply current q.filled now = .ok next ∧ row = q.mark next now

theorem look_eq_ok {q : Request} {supply : Supply} {s : Store} {plan : Plan}
    (h : (look q (supply, s)).1 = .ok plan) :
    (∃ row, plan = .replay row ∧ s.rows.get? q.action.id = some row ∧ Repeats q row) ∨
      ∃ row, plan = .write row ∧ Pending q row s := by
  rw [(look_apply q supply s).2] at h
  obtain ⟨action, hlet, h⟩ := bind_eq_ok.1 h
  obtain ⟨current, hget, h⟩ := bind_eq_ok.1 h
  obtain ⟨-, rfl, -⟩ := letIn_eq_ok hlet
  have hrow := (Store.get_eq_ok hget).2
  rcases prepare_eq_ok h with ⟨rfl, hkeyed, hkey, hop⟩ | ⟨next, hversion, happly, rfl⟩
  · exact .inl ⟨current, rfl, hrow, hkeyed, hkey, hop⟩
  · exact .inr ⟨_, rfl, current, supply.now.1, next, hrow, hversion, happly, rfl⟩

theorem look_of_repeats {q : Request} {supply : Supply} {s : Store} {plan : Plan} {a : Assignment}
    (h : (look q (supply, s)).1 = .ok plan) (ha : s.rows.get? q.action.id = some a)
    (hrepeats : Repeats q a) : plan = .replay a := by
  rw [(look_apply q supply s).2] at h
  obtain ⟨action, hlet, h⟩ := bind_eq_ok.1 h
  obtain ⟨current, hget, h⟩ := bind_eq_ok.1 h
  obtain ⟨-, rfl, -⟩ := letIn_eq_ok hlet
  cases ha.symm.trans (Store.get_eq_ok hget).2
  have hreplay : prepare q.op q.filled a supply.now.1 = .ok (.replay a) :=
    prepare_of_repeats _ hrepeats.keyed hrepeats.key hrepeats.operation
  exact Except.ok.inj (h.symm.trans hreplay)

inductive Allowed : Event → Store → Store → Prop
  | listed {s} : Allowed .listed s s
  | notCreated {ctx d f} {s : Store} : (Taken f → ∃ now fresh,
      s.checkUnique (d.assignment (actor ctx d.actorId) now fresh) = .error f) →
      Allowed (.created ctx d (.error f)) s s
  | created {ctx d s t now fresh} :
      (d.assignment (actor ctx d.actorId) now fresh).validate = .ok () →
      s.insert ctx (d.assignment (actor ctx d.actorId) now fresh) =
        .ok (d.assignment (actor ctx d.actorId) now fresh, t) →
      Allowed (.created ctx d (.ok (d.assignment (actor ctx d.actorId) now fresh))) s t
  | looked {q s} : Allowed (.looked q) s s
  | refused {q f} {s : Store} : (Taken f → ∃ current row, s.rows.get? q.action.id = some current ∧
      Advances q current row ∧ s.checkUnique row = .error f) → Allowed (.ended q (.error f)) s s
  | repeated {q row s} : s.rows.get? q.action.id = some row → Repeats q row →
      Allowed (.ended q (.ok row)) s s
  | advanced {q current row s} : s.rows.get? q.action.id = some current → Advances q current row →
      s.checkUnique row = .ok () → Allowed (.ended q (.ok row)) s (s.write row)

def Filed (s : Store) : Prop :=
  ∀ id a, s.rows.get? id = some a → a.id = id

def Moved (s t : Store) : Prop :=
  ∀ id a, s.rows.get? id = some a → ∃ b, t.rows.get? id = some b ∧ (b = a ∨ a.version < b.version)

theorem Filed.write {s : Store} (h : Filed s) (a : Assignment) : Filed (s.write a) := by
  intro id b hb
  rw [Store.get?_write] at hb
  split at hb
  · rename_i hid
    cases hb
    exact hid.symm
  · exact h id b hb

theorem Moved.refl (s : Store) : Moved s s := fun _ a ha => ⟨a, ha, .inl rfl⟩

theorem Moved.trans {s t u : Store} (hst : Moved s t) (htu : Moved t u) : Moved s u := by
  intro id a ha
  obtain ⟨b, hb, hab⟩ := hst id a ha
  obtain ⟨c, hc, hbc⟩ := htu id b hb
  refine ⟨c, hc, ?_⟩
  rcases hab with rfl | hab
  · exact hbc
  · rcases hbc with rfl | hbc
    · exact .inr hab
    · exact .inr (Nat.lt_trans hab hbc)

theorem Moved.write {s : Store} {a : Assignment}
    (h : ∀ c, s.rows.get? a.id = some c → c.version < a.version) : Moved s (s.write a) := by
  intro id c hc
  by_cases hid : id = a.id
  · subst hid
    exact ⟨a, by simp, .inr (h c hc)⟩
  · exact ⟨c, by simpa [hid] using hc, .inl rfl⟩

def versionAt (s : Store) (id : String) : Nat :=
  match s.rows.get? id with
  | some a => a.version
  | none => 0

theorem versionAt_of_some {s : Store} {id : String} {a : Assignment}
    (h : s.rows.get? id = some a) : versionAt s id = a.version := by rw [versionAt, h]

theorem Allowed.effect {e : Event} {s t : Store} (h : Allowed e s t) (hs : Filed s) :
    t = s ∨ ∃ a, t = s.write a ∧ a.version = versionAt s a.id + 1 := by
  cases h with
  | listed | notCreated | looked | refused | repeated => exact .inl rfl
  | created _ hinsert =>
    obtain ⟨-, habsent, -, rfl⟩ := Store.insert_eq_ok hinsert
    refine .inr ⟨_, rfl, ?_⟩
    rw [versionAt, habsent]
    rfl
  | advanced hcurrent hadv _ =>
    refine .inr ⟨_, rfl, ?_⟩
    rw [hadv.id, hs _ _ hcurrent, versionAt_of_some hcurrent, hadv.version]

theorem Allowed.keeps {e : Event} {s t : Store} (hs : Filed s) (h : Allowed e s t) :
    Filed t ∧ Moved s t := by
  rcases h.effect hs with rfl | ⟨a, rfl, hversion⟩
  · exact ⟨hs, Moved.refl _⟩
  · refine ⟨hs.write a, Moved.write fun c hc => ?_⟩
    rw [hversion, versionAt_of_some hc]
    exact Nat.lt_succ_self _

def contract : Contract Event Store where
  Inv := Filed
  Rely := Moved
  Guar := Allowed
  refl := Moved.refl
  trans := Moved.trans
  keeps := Allowed.keeps

theorem create_allowed (ctx : Context) (d : Draft) (supply : Supply) (s : Store) :
    Allowed (.created ctx d (create ctx d (supply, s)).1) s (create ctx d (supply, s)).2.2 := by
  simp only [create, Call.bind_apply, Call.now_apply, Call.fresh_apply, Call.ofExcept_apply]
  cases hvalid : (d.assignment (actor ctx d.actorId) supply.now.1 supply.now.2.fresh.1).validate with
  | error f => exact .notCreated fun htaken => absurd htaken (validate_plain hvalid).not_taken
  | ok u =>
    dsimp only
    rw [Call.atomic_apply]
    dsimp only
    cases hinsert : s.insert ctx
        (d.assignment (actor ctx d.actorId) supply.now.1 supply.now.2.fresh.1) with
    | error f => exact .notCreated fun htaken => ⟨_, _, Store.insert_taken hinsert htaken⟩
    | ok inserted =>
      obtain ⟨a, t⟩ := inserted
      obtain ⟨rfl, -⟩ := Store.insert_eq_ok hinsert
      exact .created hvalid hinsert

theorem lookEvent_allowed (q : Request) (supply : Supply) (s : Store) :
    Allowed (lookEvent q (look q (supply, s)).1) s s := by
  cases h : (look q (supply, s)).1 with
  | error f => exact .refused fun htaken => absurd htaken (look_not_taken h)
  | ok plan =>
    rcases look_eq_ok h with ⟨row, rfl, hrow, hrepeats⟩ | ⟨row, rfl, -⟩
    · exact .repeated hrow hrepeats
    · exact .looked

theorem isReplay_mark {q : Request} {current next : Assignment} {now : Instant} :
    Store.isReplay current (q.mark next now) = true ↔ Repeats q current := by
  simp only [Store.isReplay, Request.mark, Bool.and_eq_true, beq_iff_eq]
  constructor
  · rintro ⟨⟨hkeyed, hkey⟩, hop⟩
    refine ⟨hkeyed, hkey, ?_⟩
    obtain ⟨key, hsome⟩ := Option.isSome_iff_exists.1 hkeyed
    rw [hop, hsome]
    rfl
  · rintro ⟨hkeyed, hkey, hop⟩
    refine ⟨⟨hkeyed, hkey⟩, ?_⟩
    obtain ⟨key, hsome⟩ := Option.isSome_iff_exists.1 hkeyed
    rw [hop, hsome]
    rfl

theorem Pending.id {q : Request} {row : Assignment} {s : Store} (hs : Filed s)
    (hrow : Pending q row s) : row.id = q.action.id := by
  obtain ⟨current, now, next, hcurrent, -, happly, rfl⟩ := hrow
  exact (congrArg Assignment.id (Operation.apply_frame happly)).trans (hs _ current hcurrent)

theorem Pending.advances {q : Request} {row stored : Assignment} {s t : Store} (hs : Filed s)
    (hrow : Pending q row s) (hst : Moved s t) (hstored : t.rows.get? row.id = some stored)
    (hexpected : stored.version = q.action.expectedVersion) :
    t.rows.get? q.action.id = some stored ∧ Advances q stored
      { row with version := stored.version + 1, createdAt := stored.createdAt } := by
  rw [hrow.id hs] at hstored
  obtain ⟨current, now, next, hcurrent, hversion, happly, rfl⟩ := hrow
  have hcreated : next.createdAt = current.createdAt := by rw [Operation.apply_frame happly]
  obtain ⟨b, hb, hmoved⟩ := hst _ _ hcurrent
  cases hstored.symm.trans hb
  rcases hmoved with rfl | hlt
  · refine ⟨hstored, hversion, now, next, happly, ?_⟩
    rw [← hcreated]
    rfl
  · omega

theorem Pending.isReplay {q : Request} {row : Assignment} {s : Store} (hrow : Pending q row s)
    (current : Assignment) : Store.isReplay current row = true ↔ Repeats q current := by
  obtain ⟨_, now, next, -, -, -, rfl⟩ := hrow
  exact isReplay_mark

theorem commit_allowed {q : Request} {row : Assignment} {s t : Store} (supply : Supply)
    (hs : Filed s) (hrow : Pending q row s) (hst : Moved s t) :
    Allowed (.ended q (commit q row (supply, t)).1) t (commit q row (supply, t)).2.2 := by
  rw [commit, Call.atomic_apply]
  cases h : t.replace q.ctx row q.action.expectedVersion with
  | error f =>
    refine .refused fun htaken => ?_
    rcases Store.replace_eq_error h with h | ⟨stored, hstored, hexpected, hunique⟩
    · exact absurd htaken h.not_taken
    · obtain ⟨hcurrent, hadv⟩ := hrow.advances hs hst hstored hexpected
      exact ⟨stored, _, hcurrent, hadv, hunique⟩
  | ok written =>
    obtain ⟨_, u⟩ := written
    obtain ⟨stored, hstored, h⟩ := Store.replace_eq_ok h
    rcases h with ⟨hreplay, rfl, rfl⟩ | ⟨-, hexpected, rfl, hunique, rfl⟩
    · exact .repeated (hrow.id hs ▸ hstored) ((hrow.isReplay _).1 hreplay)
    · obtain ⟨hcurrent, hadv⟩ := hrow.advances hs hst hstored hexpected
      exact .advanced hcurrent hadv hunique

def Planned (q : Request) (row : Assignment) (s : Store) : Prop :=
  ∃ supply, (look q (supply, s)).1 = .ok (.write row)

theorem Planned.pending {q : Request} {row : Assignment} {s : Store} (h : Planned q row s) :
    Pending q row s := by
  obtain ⟨supply, hlook⟩ := h
  rcases look_eq_ok hlook with ⟨_, hplan, _⟩ | ⟨_, hplan, hpending⟩
  · cases hplan
  · cases hplan
    exact hpending

section Guarantees

variable {C : Contract Event Store}

theorem keeps_executeSteps_of {q : Request}
    (hlook : ∀ supply s, C.Inv s → C.Guar (lookEvent q (look q (supply, s)).1) s s)
    (hcommit : ∀ row s, C.Inv s → Planned q row s → ∀ supply t, C.Inv t → C.Rely s t →
      C.Guar (.ended q (commit q row (supply, t)).1) t (commit q row (supply, t)).2.2)
    (s : Store) : (executeSteps q).Keeps C s := by
  let Q : Except Fault Plan → Store → Prop := fun r t =>
    C.Inv t ∧ ∀ row, r = .ok (.write row) → Planned q row t
  have hmeets : (Process.atomically (look q) (lookEvent q)).Meets C Q s := by
    apply Process.meets_atomically
    intro supply t hinv _
    rw [(look_apply q supply t).1]
    exact ⟨hlook supply t hinv, hinv, fun row hrow => ⟨supply, hrow⟩⟩
  apply hmeets.bind
  · intro plan t hplan
    cases plan with
    | replay row => trivial
    | write row =>
      apply Process.meets_atomically
      intro supply u hinv htu
      exact ⟨hcommit row t hplan.1 (hplan.2 row rfl) supply u hinv htu, trivial⟩
  · intros
    trivial

theorem keeps_process_of
    (hcreate : ∀ ctx d supply s, C.Inv s →
      C.Guar (.created ctx d (create ctx d (supply, s)).1) s (create ctx d (supply, s)).2.2)
    (hlist : ∀ s, C.Inv s → C.Guar .listed s s)
    (hexecute : ∀ q s, (executeSteps q).Keeps C s) (ctx : Context) (c : Command) (s : Store) :
    (process ctx c).Keeps C s := by
  cases c with
  | create d =>
    apply Process.Keeps.map
    exact Process.meets_atomically fun supply t hinv _ => ⟨hcreate ctx d supply t hinv, trivial⟩
  | list f =>
    apply Process.Keeps.map
    refine Process.meets_atomically fun supply t hinv _ => ⟨?_, trivial⟩
    rw [list, Call.asks_apply]
    exact hlist t hinv
  | single op action => exact (hexecute _ s).map _
  | bulk op b =>
    apply Process.Keeps.map
    unfold executeBulkSteps
    split
    · trivial
    · apply Process.keeps_mapM
      intro action t
      refine Process.Keeps.bind trivial fun _ u => ?_
      exact (hexecute _ u).attempt.bind fun _ _ => trivial

end Guarantees

theorem keeps_process (ctx : Context) (c : Command) (s : Store) :
    (process ctx c).Keeps contract s := by
  apply keeps_process_of
  case hcreate => exact fun ctx d supply t _ => create_allowed ctx d supply t
  case hlist => exact fun t _ => .listed
  case hexecute =>
    intro q
    apply keeps_executeSteps_of
    case hlook => exact fun supply t _ => lookEvent_allowed q supply t
    case hcommit =>
      intro row t hfiled hplanned supply u _ htu
      exact commit_allowed supply hfiled hplanned.pending htu

end Backoffice.Assignment.Queue

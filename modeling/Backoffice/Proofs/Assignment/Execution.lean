import Backoffice.Proofs.Assignment.OpenWork

namespace Backoffice.Assignment

def Store.settle (s : Store) : Except Fault Assignment → Store
  | .ok a => s.write a
  | .error _ => s

theorem Store.write_of_stored {s : Store} {a : Assignment} (h : s.rows.get? a.id = some a) :
    s.write a = s := by
  rw [write, Dict.set_get? h]

theorem Store.get_of_active {s : Store} {ctx : Context} (h : ctx.cancelled = false) (id : String) :
    s.get ctx id = match s.rows.get? id with
      | some a => .ok a
      | none => .error (.notFound "translation assignment" id) := by
  rw [get, Context.ensureActive_eq_ok.2 h]
  rfl

theorem Store.replace_of_replay {s : Store} {ctx : Context} {a current : Assignment}
    (hactive : ctx.cancelled = false) (hcurrent : s.rows.get? a.id = some current)
    (hreplay : isReplay current a = true) (expected : Nat) :
    s.replace ctx a expected = .ok (current, s) := by
  simp [replace, get_of_active hactive, hcurrent, hreplay, bind, Except.bind]

theorem Store.replace_of_current {s : Store} {ctx : Context} {a current : Assignment}
    (hactive : ctx.cancelled = false) (hcurrent : s.rows.get? a.id = some current)
    (hreplay : isReplay current a = false)
    (hunique : s.checkUnique { a with version := current.version + 1, createdAt := current.createdAt } =
      .ok ()) :
    s.replace ctx a current.version =
      .ok ({ a with version := current.version + 1, createdAt := current.createdAt },
        s.write { a with version := current.version + 1, createdAt := current.createdAt }) := by
  simp [replace, get_of_active hactive, hcurrent, hreplay, Version.next, hunique, bind, Except.bind]

namespace Queue

def Request.plan (q : Request) (row : Option Assignment) (now : Instant) : Except Fault Plan := do
  let action ← letIn q.ctx q.action
  match row with
  | some current => prepare q.op action current now
  | none => .error (.notFound "translation assignment" q.action.id)

def Request.outcome (q : Request) : Plan → Assignment
  | .replay row => row
  | .write row => { row with version := q.action.expectedVersion + 1 }

def Request.answer (q : Request) (row : Option Assignment) (now : Instant) :
    Except Fault Assignment := q.outcome <$> q.plan row now

variable {q : Request} {s : Store} {row : Option Assignment} {now : Instant} {a : Assignment}

theorem letIn_active {ctx : Context} {action entered : Action} (h : letIn ctx action = .ok entered) :
    ctx.cancelled = false := Context.ensureActive_eq_ok.1 (letIn_eq_ok h).1

theorem look_eq_plan (q : Request) (supply : Supply) (s : Store) :
    (look q (supply, s)).1 = q.plan (s.rows.get? q.action.id) supply.now.1 := by
  rw [(look_apply q supply s).2, Request.plan]
  cases h : letIn q.ctx q.action with
  | error f => rfl
  | ok entered =>
    obtain ⟨-, rfl, -⟩ := letIn_eq_ok h
    simp only [bind, Except.bind, Store.get_of_active (letIn_active h)]
    cases s.rows.get? q.action.id <;> rfl

theorem plan_eq_ok {plan : Plan} (h : q.plan row now = .ok plan) :
    q.ctx.cancelled = false ∧ ∃ current, row = some current ∧
      ((plan = .replay current ∧ Repeats q current) ∨ ¬Repeats q current ∧ ∃ next,
        current.version = q.action.expectedVersion ∧
          q.op.apply current q.filled now = .ok next ∧ plan = .write (q.mark next now)) := by
  obtain ⟨_, hlet, hprepare⟩ := bind_eq_ok.1 h
  refine ⟨letIn_active hlet, ?_⟩
  obtain ⟨-, rfl, -⟩ := letIn_eq_ok hlet
  cases row with
  | none => cases hprepare
  | some current =>
    refine ⟨current, rfl, ?_⟩
    rcases prepare_eq_ok hprepare with ⟨hplan, hkeyed, hkey, hop⟩ | ⟨next, hversion, happly, hplan⟩
    · exact .inl ⟨hplan, hkeyed, hkey, hop⟩
    · refine .inr ⟨fun hrepeats => ?_, next, hversion, happly, hplan⟩
      -- a row that bears the key would have been the answer
      have hreplay : prepare q.op q.filled current now = .ok (.replay current) :=
        prepare_of_repeats now hrepeats.keyed hrepeats.key hrepeats.operation
      rw [hplan] at hprepare
      cases hprepare.symm.trans hreplay

theorem commit_eq {copy : Assignment} (supply : Supply) (hs : Filed s) (h : Exclusive s)
    (hplan : q.plan (s.rows.get? q.action.id) now = .ok (.write copy)) :
    commit q copy (supply, s) =
      (.ok (q.outcome (.write copy)), supply, s.write (q.outcome (.write copy))) := by
  obtain ⟨hactive, current, hcurrent, ⟨hreplay, -⟩ | ⟨hnew, next, hversion, happly, hwrite⟩⟩ :=
    plan_eq_ok hplan
  · cases hreplay
  have hcopy : copy = q.mark next now := Plan.write.inj hwrite
  have hpending : Pending q copy s := ⟨current, now, next, hcurrent, hversion, happly, hcopy⟩
  have hstored : s.rows.get? copy.id = some current := by rw [hpending.id hs, hcurrent]
  have hadv := (hpending.advances hs (.refl s) hstored hversion).2
  have hreplace := Store.replace_of_current hactive hstored
    (Bool.eq_false_iff.2 (mt (hpending.isReplay current).1 hnew)) (h.checkUnique hs hcurrent hadv)
  have hcreated : current.createdAt = copy.createdAt := by
    rw [hcopy, Request.mark, Operation.apply_frame happly]
  rw [hcreated, hversion] at hreplace
  rw [commit, Call.atomic_apply]
  simp only [hreplace, Request.outcome]

theorem execute_eq_answer (q : Request) (supply : Supply) (hs : Filed s) (h : Exclusive s) :
    (execute q.ctx q.op q.action (supply, s)).1 =
        q.answer (s.rows.get? q.action.id) supply.now.1 ∧
      (execute q.ctx q.op q.action (supply, s)).2.2 =
        s.settle (q.answer (s.rows.get? q.action.id) supply.now.1) := by
  have hlook := look_eq_plan q supply s
  rw [Request.answer]
  rcases execute_cases q supply s with
    ⟨f, supply', hplan, heq⟩ | ⟨stored, supply', hplan, heq⟩ | ⟨next, supply', hplan, heq⟩
  · rw [heq, ← hlook, hplan]
    exact ⟨rfl, rfl⟩
  · obtain ⟨_, hreplay, hstored, -⟩ | ⟨_, hwrite, -⟩ := look_eq_ok hplan
    · cases hreplay
      have hid : s.rows.get? stored.id = some stored := by rw [hs _ _ hstored, hstored]
      rw [heq, ← hlook, hplan]
      exact ⟨rfl, (Store.write_of_stored hid).symm⟩
    · cases hwrite
  · rw [hlook] at hplan
    rw [heq, commit_eq supply' hs h hplan, hplan]
    exact ⟨rfl, rfl⟩

theorem execute_allowed (q : Request) (supply : Supply) (hs : Filed s) :
    Allowed (.ended q (execute q.ctx q.op q.action (supply, s)).1) s
      (execute q.ctx q.op q.action (supply, s)).2.2 := by
  have hlook := lookEvent_allowed q supply s
  rcases execute_cases q supply s with
    ⟨f, supply', hplan, heq⟩ | ⟨stored, supply', hplan, heq⟩ | ⟨copy, supply', hplan, heq⟩
  · rw [hplan] at hlook
    rw [heq]
    exact hlook
  · rw [hplan] at hlook
    rw [heq]
    exact hlook
  · rw [heq]
    exact commit_allowed supply' hs (Planned.pending ⟨supply, hplan⟩) (.refl s)

theorem answer_id {current : Assignment} (h : q.answer (some current) now = .ok a) :
    a.id = current.id := by
  unfold Request.answer at h
  cases hplan : q.plan (some current) now with
  | error f =>
    rw [hplan] at h
    cases h
  | ok plan =>
    rw [hplan] at h
    cases h
    obtain ⟨-, _, ⟨⟩, ⟨rfl, -⟩ | ⟨-, next, -, happly, rfl⟩⟩ := plan_eq_ok hplan
    · rfl
    · change next.id = current.id
      rw [Operation.apply_frame happly]

end Queue

end Backoffice.Assignment

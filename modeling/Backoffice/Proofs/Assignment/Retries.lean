import Backoffice.Proofs.Assignment.Execution
import Backoffice.Proofs.Assignment.Permanence

namespace Backoffice.Assignment.Queue

structure Retries (q q' : Request) : Prop where
  op : q'.op = q.op
  action : q'.filled = q.filled

variable {q q' : Request} {s t : Store} {a : Assignment}

theorem Retries.id (h : Retries q q') : q'.action.id = q.action.id := by
  simpa [Request.filled] using congrArg Action.id h.action

theorem Retries.key (h : Retries q q') : q'.action.key = q.action.key := by
  simpa [Request.filled] using congrArg Action.key h.action

theorem Retries.repeats (h : Retries q q') (hrepeats : Repeats q a) : Repeats q' a := by
  constructor
  case keyed => rw [h.key, hrepeats.keyed]
  case key => rw [h.key, hrepeats.key]
  case operation => rw [h.op, hrepeats.operation]

theorem Advances.repeats {current row : Assignment} (h : Advances q current row)
    (hkeyed : q.action.key.isSome) : Repeats q row := by
  obtain ⟨key, hkey⟩ := Option.isSome_iff_exists.1 hkeyed
  constructor
  case keyed => exact hkeyed
  case key => rw [h.frame]
  case operation =>
    rw [h.frame, hkey]
    rfl

theorem letIn_of_valid (hactive : q.ctx.cancelled = false) (hvalid : q.filled.validate = .ok ()) :
    letIn q.ctx q.action = .ok q.filled := by
  rw [letIn, Context.ensureActive_eq_ok.2 hactive]
  change (q.filled.validate >>= fun _ => .ok q.filled) = .ok q.filled
  rw [hvalid]
  rfl

def Replies (e : Event) (s : Store) : Prop :=
  ∀ q r a, e = .ended q r → q.ctx.cancelled = false → q.filled.validate = .ok () →
    s.rows.get? q.action.id = some a → Repeats q a → r = .ok a

theorem plan_of_repeats (hactive : q.ctx.cancelled = false) (hvalid : q.filled.validate = .ok ())
    (hrepeats : Repeats q a) (now : Instant) : q.plan (some a) now = .ok (.replay a) := by
  have hreplay : prepare q.op q.filled a now = .ok (.replay a) :=
    prepare_of_repeats now hrepeats.keyed hrepeats.key hrepeats.operation
  rw [Request.plan, letIn_of_valid hactive hvalid]
  exact hreplay

theorem lookEvent_replies (q : Request) (supply : Supply) (s : Store) :
    Replies (lookEvent q (look q (supply, s)).1) s := by
  intro q' r a he hactive hvalid ha hrepeats
  rw [look_eq_plan] at he
  cases hplan : q.plan (s.rows.get? q.action.id) supply.now.1 with
  | error f =>
    rw [hplan] at he
    cases he
    rw [ha, plan_of_repeats hactive hvalid hrepeats] at hplan
    cases hplan
  | ok plan =>
    rw [hplan] at he
    cases plan with
    | write copy => cases he
    | replay row =>
      cases he
      rw [ha, plan_of_repeats hactive hvalid hrepeats] at hplan
      cases hplan
      rfl

theorem commit_replies {copy : Assignment} (supply : Supply) (hs : Filed s)
    (hcopy : Pending q copy s) : Replies (.ended q (commit q copy (supply, t)).1) t := by
  intro q' r a he hactive _ ha hrepeats
  obtain ⟨rfl, rfl⟩ := Event.ended.inj he
  have hstored : t.rows.get? copy.id = some a := by rw [hcopy.id hs, ha]
  have hreplay := Store.replace_of_replay hactive hstored ((hcopy.isReplay a).2 hrepeats)
  rw [commit, Call.atomic_apply]
  simp only [hreplay]

def replying : Contract Event Store where
  Inv := Filed
  Rely := Moved
  Guar e s t := Warranted e s t ∧ Replies e s
  refl := Moved.refl
  trans := Moved.trans
  keeps hs h := Allowed.keeps hs h.1.allowed

theorem keeps_replying (ctx : Context) (c : Command) (s : Store) :
    (process ctx c).Keeps replying s := by
  apply keeps_process_of
  case hcreate =>
    intro ctx d supply t _
    refine ⟨.of_allowed (create_allowed ctx d supply t) (by simp) (by simp), ?_⟩
    intro q r a he
    cases he
  case hlist =>
    intro t _
    refine ⟨.of_allowed .listed (by simp) (by simp), ?_⟩
    intro q r a he
    cases he
  case hexecute =>
    intro q
    apply keeps_executeSteps_of
    case hlook =>
      exact fun supply t _ => ⟨lookEvent_warranted q supply t, lookEvent_replies q supply t⟩
    case hcommit =>
      intro copy t hfiled hplanned supply u _ htu
      exact ⟨commit_warranted supply hfiled hplanned htu,
        commit_replies supply hfiled hplanned.pending⟩

theorem play_replying (calls : List (Context × Command)) (supply : Supply) (turns : List Turn) :
    replying.Allows .empty ((start calls supply).play turns).1
      ((start calls supply).play turns).2.state := by
  apply World.play_allowed (start calls supply) turns filed_empty
  intro p hp
  obtain ⟨c, -, rfl⟩ := List.mem_map.1 hp
  exact keeps_replying c.1 c.2 _

def Applies (m : Moment Event Store) (q : Request) (a : Assignment) : Prop :=
  m.event = .ended q (.ok a) ∧ m.after ≠ m.before

def Spares (ms : List (Moment Event Store)) (id : String) : Prop :=
  ∀ m ∈ ms, m.after.rows.get? id = m.before.rows.get? id

theorem Spares.get? {ms : List (Moment Event Store)} {id : String} (h : Spares ms id)
    (hrun : replying.Allows s ms t) : t.rows.get? id = s.rows.get? id := by
  refine hrun.closed (R := fun s t => t.rows.get? id = s.rows.get? id) ?_ ?_ ?_
  · exact fun _ => rfl
  · exact fun hst htu => htu.trans hst
  · exact fun m hm _ => h m hm

theorem Applies.stored {m : Moment Event Store} (h : Applies m q a)
    (hm : Warranted m.event m.before m.after) (hs : Filed m.before) :
    m.after.rows.get? q.action.id = some a ∧ q.filled.validate = .ok () ∧
      (q.action.key.isSome → Repeats q a) := by
  obtain ⟨he, hchanged⟩ := h
  rcases ended_cases hm.allowed hs he with ⟨b, hb, hwrites, -⟩ | ⟨hsame, -⟩
  · cases hb
    refine ⟨hwrites.2, hm.entered q a he, fun hkeyed => ?_⟩
    rcases (written_of_writes hm.allowed hs hwrites).2 with ⟨⟨_, _, _, _, hbegun, -⟩, -⟩ |
      ⟨q', current, he', -, -, hadv⟩
    · cases he.symm.trans hbegun
    · cases he.symm.trans he'
      exact hadv.repeats hkeyed
  · exact absurd hsame hchanged

theorem Applies.retried {m : Moment Event Store} {ms : List (Moment Event Store)} (h : Applies m q a)
    (hm : Warranted m.event m.before m.after) (hs : Filed m.before)
    (hrun : replying.Allows m.after ms t) (hspares : Spares ms q.action.id) (hretries : Retries q q')
    (hkeyed : q.action.key.isSome) :
    q'.filled.validate = .ok () ∧ t.rows.get? q'.action.id = some a ∧ Repeats q' a := by
  obtain ⟨hstored, hvalid, hrepeats⟩ := h.stored hm hs
  refine ⟨?_, ?_, hretries.repeats (hrepeats hkeyed)⟩
  · rw [hretries.action, hvalid]
  · rw [hretries.id, hspares.get? hrun, hstored]

/-- What is submitted again and again is applied once at most, and answered with the row it stored for
as long as that row stays. -/
structure AppliedOnce (calls : List (Context × Command)) (ms : List (Moment Event Store))
    (w : World Event Store Answer) : Prop where
  once : ms.Pairwise fun m m' => ∀ q q' r r', m.event = .ended q r → m'.event = .ended q' r' →
    q'.action.id = q.action.id → q'.action.expectedVersion = q.action.expectedVersion →
    m.after = m.before ∨ m'.after = m'.before
  applied : ∀ m ∈ ms, ∀ q r, m.event = .ended q r → m.after ≠ m.before →
    ∃ a, r = .ok a ∧ m.after.rows.get? q.action.id = some a
  others : ∀ m ∈ ms, ∀ q r, m.event = .ended q r → m.after = m.before →
    (∃ f, r = .error f) ∨ ∃ row, r = .ok row ∧ m.before.rows.get? q.action.id = some row
  looked : ∀ m ∈ ms, ∀ q, m.event = .looked q → m.after = m.before
  answered : ∀ earlier m between m' later q q' a r, ms = earlier ++ m :: (between ++ m' :: later) →
    Applies m q a → q.action.key.isSome → Spares between q.action.id →
    m'.event = .ended q' r → Retries q q' → q'.ctx.cancelled = false →
    r = .ok a ∧ m'.after = m'.before
  execute : ∀ earlier m later q ctx op action a, ms = earlier ++ m :: later →
    Applies m q a → q.action.key.isSome → Spares later q.action.id →
    Retries q ⟨ctx, op, action⟩ → ctx.cancelled = false → ∀ supply,
    (execute ctx op action (supply, w.state)).1 = .ok a ∧
      (execute ctx op action (supply, w.state)).2.2 = w.state
  submissions : ∀ (i : Nat) ctx op action r, calls[i]? = some (ctx, .single op action) →
    w.calls[i]? = some (.done r) →
    ∃ x, endings (eventsOf i ms) = [(⟨ctx, op, action⟩, x)] ∧ r = Answer.row <$> x

theorem execute_of_repeats (hactive : q.ctx.cancelled = false)
    (hvalid : q.filled.validate = .ok ()) (ha : s.rows.get? q.action.id = some a)
    (hrepeats : Repeats q a) (supply : Supply) :
    (execute q.ctx q.op q.action (supply, s)).1 = .ok a ∧
      (execute q.ctx q.op q.action (supply, s)).2.2 = s := by
  have hplan := look_eq_plan q supply s
  rw [ha, plan_of_repeats hactive hvalid hrepeats] at hplan
  rcases execute_cases q supply s with ⟨_, _, hlook, -⟩ | ⟨_, _, hlook, heq⟩ | ⟨_, _, hlook, -⟩
  · cases hlook.symm.trans hplan
  · cases hlook.symm.trans hplan
    rw [heq]
    exact ⟨rfl, rfl⟩
  · cases hlook.symm.trans hplan

theorem applied_once (calls : List (Context × Command)) (supply : Supply) (turns : List Turn) :
    AppliedOnce calls ((start calls supply).play turns).1 ((start calls supply).play turns).2 := by
  have hrun := play_replying calls supply turns
  have hallowed : contract.Allows .empty ((start calls supply).play turns).1
      ((start calls supply).play turns).2.state := hrun.weaken fun h => h.1.allowed
  have hstep : ∀ m ∈ ((start calls supply).play turns).1, Filed m.before ∧
      Moved .empty m.before ∧ Warranted m.event m.before m.after ∧ Replies m.event m.before :=
    fun _ hm => hrun.moment filed_empty hm
  constructor
  case once =>
    -- each of two writes would store the version after the one both expect
    refine List.Pairwise.imp_of_mem ?_ (writes_ascend hallowed filed_empty)
    intro m m' hm hm' hascend q q' r r' he he' hid hexpected
    rcases ended_cases (hstep m hm).2.2.1.allowed (hstep m hm).1 he with ⟨a, -, ha, hva⟩ | ⟨hsame, -⟩
    · rcases ended_cases (hstep m' hm').2.2.1.allowed (hstep m' hm').1 he' with
        ⟨b, -, hb, hvb⟩ | ⟨hsame, -⟩
      · have hlt := hascend q.action.id a b ha (hid ▸ hb)
        omega
      · exact .inr hsame
    · exact .inl hsame
  case applied =>
    intro m hm q r he hchanged
    rcases ended_cases (hstep m hm).2.2.1.allowed (hstep m hm).1 he with ⟨a, ha, hw, -⟩ | ⟨hsame, -⟩
    · exact ⟨a, ha, hw.2⟩
    · exact absurd hsame hchanged
  case others =>
    intro m hm q r he hsame
    rcases ended_cases (hstep m hm).2.2.1.allowed (hstep m hm).1 he with
      ⟨a, -, hw, -⟩ | ⟨-, hf | ⟨row, hr, hrow, -⟩⟩
    · exact absurd (hsame ▸ hw.2) hw.1
    · exact .inl hf
    · exact .inr ⟨row, hr, hrow⟩
  case looked => exact fun m hm q he => Idle.unchanged (.looked he) (hstep m hm).2.2.1
  case answered =>
    intro earlier m between m' later q q' a r hms happlies hkeyed hspares he' hretries hactive
    rw [hms] at hrun hstep
    obtain ⟨hfiled, -, hm, -⟩ := hstep m (by simp)
    obtain ⟨-, -, hm', hreplies⟩ := hstep m' (by simp)
    obtain ⟨-, -, hbetween⟩ := hrun.between
    obtain ⟨hvalid, ha, hrepeats⟩ := happlies.retried hm hfiled hbetween hspares hretries hkeyed
    exact ⟨hreplies q' r a he' hactive hvalid ha hrepeats, hm'.repeated q' r a he' ha hrepeats⟩
  case execute =>
    intro earlier m later q ctx op action a hms happlies hkeyed hspares hretries hactive supply'
    rw [hms] at hrun hstep
    obtain ⟨hfiled, -, hm, -⟩ := hstep m (by simp)
    obtain ⟨_, -, -, -, hlater⟩ := hrun.append
    obtain ⟨hvalid, ha, hrepeats⟩ := happlies.retried hm hfiled hlater hspares hretries hkeyed
    exact execute_of_repeats hactive hvalid ha hrepeats supply'
  case submissions =>
    intro i ctx op action r hi hr
    exact play_answered hi hr

end Backoffice.Assignment.Queue

import Backoffice.Proofs.Assignment.Execution
import Backoffice.Proofs.Assignment.Rows
import Mathlib.Data.List.Nodup

namespace Backoffice.Assignment

def Operation.restamp (op : Operation) (a : Assignment) (now : Instant) : Assignment :=
  match op with
  | claim => { a with updatedAt := now, claimedAt := some now }
  | assign | release => { a with updatedAt := now }
  | submitReview => { a with updatedAt := now, submittedAt := some now }
  | approve | reject => { a with updatedAt := now, reviewedAt := some now }
  | publish => { a with updatedAt := now, publishedAt := some now }
  | archive => { a with updatedAt := now, archivedAt := some now }

theorem Operation.apply_restamp (op : Operation) (a : Assignment) (action : Action)
    (now now' : Instant) :
    (fun b : Assignment => { b with updatedAt := now' }) <$> op.apply a action now' =
      (fun b => op.restamp b now') <$> op.apply a action now := by
  cases op <;> cases hstatus : a.status <;> simp only [apply, hstatus]
  all_goals try split
  all_goals rfl

theorem Outcome.toJson_members (o : Outcome) :
    (o.toJson.get? "assignment").isSome = o.succeeded ∧
      (o.toJson.get? "error").isSome = !o.succeeded := by
  unfold toJson succeeded
  cases o.result <;>
    simp [Json.ofFields, Json.get?, Entries.get?_ofList_cons]

@[simp] theorem BulkAction.actions_ids (b : BulkAction) :
    b.actions.map (·.id) = b.items.map (·.id) := by
  simp [actions]

namespace Queue

def executeEach (ctx : Context) (op : Operation) :
    List Action → Supply × Store → List Outcome × Supply × Store
  | [], w => ([], w)
  | action :: rest, w =>
    let first := execute ctx op action w
    let others := executeEach ctx op rest first.2
    (⟨action.id, first.1⟩ :: others.1, others.2)

variable {ctx : Context} {op : Operation} {q : Request} {s t t' : Store}

theorem executeEach_ids (ctx : Context) (op : Operation) (actions : List Action)
    (w : Supply × Store) :
    (executeEach ctx op actions w).1.map (·.id) = actions.map (·.id) := by
  induction actions generalizing w with
  | nil => rfl
  | cons action rest ih => simp [executeEach, ih]

theorem executeItem_apply (hactive : ctx.cancelled = false) (action : Action)
    (w : Supply × Store) :
    (do Call.ofExcept ctx.ensureActive
        pure ⟨action.id, ← Call.attempt (execute ctx op action)⟩ : Call Store Outcome) w =
      (.ok ⟨action.id, (execute ctx op action w).1⟩, (execute ctx op action w).2) := by
  rw [Context.ensureActive_eq_ok.2 hactive]
  rfl

theorem executeBulk_eq {b : BulkAction} (hactive : ctx.cancelled = false) (hitems : b.items ≠ [])
    (w : Supply × Store) :
    executeBulk ctx op b w =
      (.ok (executeEach ctx op b.actions w).1, (executeEach ctx op b.actions w).2) := by
  unfold executeBulk
  rw [if_neg (by simpa using hitems)]
  dsimp only
  generalize b.actions = actions
  induction actions generalizing w with
  | nil => rfl
  | cons action rest ih =>
    rw [List.mapM_cons, Call.bind_apply_ok (executeItem_apply hactive action w),
      Call.bind_apply_ok (ih _)]
    rfl

theorem Request.answer_keyless {current : Assignment} (hkey : q.action.key = none) (now : Instant) :
    q.answer (some current) now = letIn q.ctx q.action >>= fun action =>
      if current.version = action.expectedVersion then
        (fun b => q.outcome (.write (q.mark b now))) <$> q.op.apply current action now
      else .error (.staleAssignment current.id action.expectedVersion current.version) := by
  rw [answer, plan]
  cases h : letIn q.ctx q.action with
  | error f => rfl
  | ok action =>
    obtain ⟨-, rfl, -⟩ := letIn_eq_ok h
    simp only [bind, Except.bind, prepare, hkey, Option.isSome_none, Bool.false_and,
      Bool.false_eq_true, if_false, bne_iff_ne, ne_eq, ite_not]
    split
    · simp only [mark, hkey]
      cases q.op.apply current _ now <;> rfl
    · rfl

theorem Request.answer_restamp (hkey : q.action.key = none) (row : Option Assignment)
    (now now' : Instant) :
    q.answer row now' = (fun a => q.op.restamp a now') <$> q.answer row now := by
  have hmarks : ∀ b, q.outcome (.write (q.mark (q.op.restamp b now') now')) =
      q.op.restamp (q.outcome (.write (q.mark b now))) now' := by
    intro b
    rw [outcome, outcome, mark, mark]
    cases q.op <;> rfl
  cases row with
  | none =>
    rw [answer, answer, plan, plan]
    cases letIn q.ctx q.action <;> rfl
  | some current =>
    rw [answer_keyless hkey, answer_keyless hkey]
    cases letIn q.ctx q.action with
    | error f => rfl
    | ok action =>
      simp only [bind, Except.bind]
      split
      · calc (fun b => q.outcome (.write (q.mark b now'))) <$> q.op.apply current action now'
          _ = (fun b => q.outcome (.write (q.mark b now'))) <$>
                (fun b : Assignment => { b with updatedAt := now' }) <$>
                  q.op.apply current action now' := by
            rw [Functor.map_map]
            rfl
          _ = (fun a => q.op.restamp a now') <$> (fun b => q.outcome (.write (q.mark b now))) <$>
                q.op.apply current action now := by
            rw [Operation.apply_restamp _ _ _ now now']
            simp only [Functor.map_map, hmarks]
      · rfl

theorem answer_filed (hs : Filed s) {now : Instant} {a : Assignment}
    (h : q.answer (s.rows.get? q.action.id) now = .ok a) : a.id = q.action.id := by
  cases hrow : s.rows.get? q.action.id with
  | none =>
    rw [hrow, Request.answer, Request.plan] at h
    cases hlet : letIn q.ctx q.action <;> rw [hlet] at h <;> cases h
  | some current =>
    rw [hrow] at h
    rw [answer_id h, hs _ _ hrow]

def leaves (row : Option Assignment) : Except Fault Assignment → Option Assignment
  | .ok a => some a
  | .error _ => row

theorem get?_execute (q : Request) (supply : Supply) (hs : Filed s) (h : Exclusive s) (id : String) :
    (execute q.ctx q.op q.action (supply, s)).2.2.rows.get? id =
      if id = q.action.id then
        leaves (s.rows.get? id) (execute q.ctx q.op q.action (supply, s)).1
      else s.rows.get? id := by
  obtain ⟨hanswer, hsettle⟩ := execute_eq_answer q supply hs h
  rw [hsettle, hanswer]
  cases ha : q.answer (s.rows.get? q.action.id) supply.now.1 with
  | error f => simp [Store.settle, leaves]
  | ok a => simp [Store.settle, leaves, answer_filed hs ha]

structure Apart (ctx : Context) (op : Operation) (s : Store) (actions : List Action)
    (os : List Outcome) (t : Store) : Prop where
  decided : ∀ action ∈ actions, ∃ o ∈ os, o.id = action.id ∧ ∃ now,
    o.result = Request.answer ⟨ctx, op, action⟩ (s.rows.get? action.id) now ∧
      t.rows.get? action.id = leaves (s.rows.get? action.id) o.result
  others : ∀ id, id ∉ actions.map (·.id) → t.rows.get? id = s.rows.get? id

theorem executeEach_apart {actions : List Action} (hdistinct : (actions.map (·.id)).Nodup)
    (supply : Supply) (hs : Filed s) (hx : Exclusive s) :
    Apart ctx op s actions (executeEach ctx op actions (supply, s)).1
      (executeEach ctx op actions (supply, s)).2.2 := by
  induction actions generalizing supply s with
  | nil => exact ⟨by simp, fun _ _ => rfl⟩
  | cons action rest ih =>
    simp only [List.map_cons, List.nodup_cons] at hdistinct
    obtain ⟨hnew, hdistinct⟩ := hdistinct
    have hanswer := (execute_eq_answer ⟨ctx, op, action⟩ supply hs hx).1
    have hfirst := get?_execute ⟨ctx, op, action⟩ supply hs hx
    have hstep := execute_allowed ⟨ctx, op, action⟩ supply hs
    have hrest := ih hdistinct (execute ctx op action (supply, s)).2.1 (hstep.keeps hs).1
      (hstep.exclusive hs hx)
    constructor
    case decided =>
      intro action' hmem
      rcases List.mem_cons.1 hmem with rfl | hmem
      · refine ⟨⟨action'.id, _⟩, List.mem_cons_self, rfl, supply.now.1, hanswer, ?_⟩
        exact (hrest.others _ hnew).trans ((hfirst action'.id).trans (if_pos rfl))
      · obtain ⟨o, ho, hid, now, hresult, hrow⟩ := hrest.decided action' hmem
        have hne : action'.id ≠ action.id := by
          intro heq
          exact hnew (List.mem_map.2 ⟨action', hmem, heq⟩)
        have hsame := (hfirst action'.id).trans (if_neg hne)
        rw [hsame] at hresult hrow
        exact ⟨o, List.mem_cons_of_mem _ ho, hid, now, hresult, hrow⟩
    case others =>
      intro id hid
      have hne : id ≠ action.id ∧ id ∉ rest.map (·.id) := by simpa using hid
      exact (hrest.others id hne.2).trans ((hfirst id).trans (if_neg hne.1))

inductive Alike (op : Operation) (s t t' : Store) (id : String) :
    Except Fault Assignment → Except Fault Assignment → Prop
  | refused {f} : t.rows.get? id = s.rows.get? id → t'.rows.get? id = s.rows.get? id →
      Alike op s t t' id (.error f) (.error f)
  | done {a now} : t.rows.get? id = some a → t'.rows.get? id = some (op.restamp a now) →
      Alike op s t t' id (.ok a) (.ok (op.restamp a now))

structure Reordered (op : Operation) (s : Store) (os os' : List Outcome) (t t' : Store) : Prop where
  outcomes : ∀ o ∈ os, ∃ o' ∈ os', o'.id = o.id ∧ Alike op s t t' o.id o.result o'.result
  others : ∀ id, id ∉ os.map (·.id) →
    t.rows.get? id = s.rows.get? id ∧ t'.rows.get? id = s.rows.get? id

theorem Apart.reordered {actions actions' : List Action} {os os' : List Outcome}
    (h : Apart ctx op s actions os t) (h' : Apart ctx op s actions' os' t')
    (hperm : actions'.Perm actions) (hkeyless : ∀ action ∈ actions, action.key = none)
    (hids : os.map (·.id) = actions.map (·.id)) (hdistinct : (actions.map (·.id)).Nodup) :
    Reordered op s os os' t t' := by
  constructor
  case outcomes =>
    intro o ho
    have hid : o.id ∈ actions.map (·.id) := by
      rw [← hids]
      exact List.mem_map_of_mem ho
    obtain ⟨action, haction, hid⟩ := List.mem_map.1 hid
    obtain ⟨o₁, ho₁, hid₁, now, hresult, hrow⟩ := h.decided action haction
    obtain ⟨o', ho', hid', now', hresult', hrow'⟩ := h'.decided action (hperm.mem_iff.2 haction)
    -- the outcome of the action is the one that bears its id
    have hsame : o₁ = o := List.inj_on_of_nodup_map (hids ▸ hdistinct) ho₁ ho (hid₁.trans hid)
    subst o₁
    refine ⟨o', ho', hid'.trans hid, ?_⟩
    rw [Request.answer_restamp (hkeyless action haction) _ now now', ← hresult] at hresult'
    rw [hresult'] at hrow' ⊢
    rw [hid] at hrow hrow'
    cases hanswer : o.result with
    | error f =>
      rw [hanswer] at hrow hrow'
      exact .refused hrow hrow'
    | ok a =>
      rw [hanswer] at hrow hrow'
      exact .done hrow hrow'
  case others =>
    intro id hid
    rw [hids] at hid
    exact ⟨h.others id hid, h'.others id (mt ((hperm.map _).mem_iff.1) hid)⟩

/-- A bulk command in state `s` is the operations one by one, in any order. -/
structure OneByOne (ctx : Context) (op : Operation) (b : BulkAction) (supply : Supply) (s : Store)
    (os : List Outcome) (w : Supply × Store) : Prop where
  singles : executeEach ctx op b.actions (supply, s) = (os, w)
  inOrder : os.map (·.id) = b.items.map (·.id)
  reported : ∀ o ∈ os, (o.toJson.get? "assignment").isSome = o.succeeded ∧
    (o.toJson.get? "error").isSome = !o.succeeded
  anyOrder : (b.items.map (·.id)).Nodup → ∀ items, items.Perm b.items → ∀ supply', ∃ os' w',
    executeBulk ctx op { b with items } (supply', s) = (.ok os', w') ∧
      Reordered op s os os' w.2 w'.2

theorem play_exclusive (calls : List (Context × Command)) (supply : Supply) (turns : List Turn) :
    Filed ((start calls supply).play turns).2.state ∧
      Exclusive ((start calls supply).play turns).2.state := by
  have hrun := play_warranted calls supply turns
  refine ⟨(hrun.keeps filed_empty).1, (hrun.invariant filed_empty exclusive_empty ?_).1⟩
  exact fun hs hstep h => hstep.allowed.exclusive hs h

theorem bulk_one_by_one (calls : List (Context × Command)) (supply : Supply) (turns : List Turn)
    {ctx : Context} {b : BulkAction} (hactive : ctx.cancelled = false) (hitems : b.items ≠ [])
    (op : Operation) (supply' : Supply) :
    ∃ os w, executeBulk ctx op b (supply', ((start calls supply).play turns).2.state) = (.ok os, w) ∧
      OneByOne ctx op b supply' ((start calls supply).play turns).2.state os w := by
  obtain ⟨hs, hx⟩ := play_exclusive calls supply turns
  generalize ((start calls supply).play turns).2.state = s at hs hx
  refine ⟨_, _, executeBulk_eq hactive hitems (supply', s), ?_⟩
  constructor
  case singles => rfl
  case inOrder => simp [executeEach_ids]
  case reported => exact fun o _ => o.toJson_members
  case anyOrder =>
    intro hdistinct items hperm supply''
    have hitems' : items ≠ [] := by
      rintro rfl
      exact hitems hperm.nil_eq.symm
    have hdistinct' : (items.map (·.id)).Nodup := (hperm.map _).nodup_iff.2 hdistinct
    have hfirst : Apart ctx op s b.actions _ _ :=
      executeEach_apart (by simpa using hdistinct) supply' hs hx
    have hsecond : Apart ctx op s (BulkAction.actions { b with items }) _ _ :=
      executeEach_apart (by simpa using hdistinct') supply'' hs hx
    refine ⟨_, _, executeBulk_eq (b := { b with items }) hactive hitems' (supply'', s), ?_⟩
    exact hfirst.reordered hsecond (hperm.map _) (by simp [BulkAction.actions])
      (executeEach_ids ctx op b.actions (supply', s)) (by simpa using hdistinct)

def openRows : List (Context × Command) :=
  let draft (id : String) : Draft :=
    ⟨some id, "g", "post" ++ id, "r", "en", "de", none, none, .normal, none, "ed"⟩
  [(.system, .create (draft "a")), (.system, .create (draft "b"))]

/-- Of three targets one is claimed, one has another version, and one is not there. -/
theorem bulk_one_by_one_claims :
    let b : BulkAction := ⟨[⟨"a", 1⟩, ⟨"b", 9⟩, ⟨"c", 1⟩], "ann", none, none⟩
    let s := ((start openRows ⟨⟨0, 0⟩, 0⟩).play [.call 0, .call 1]).2.state
    (b.items.map (·.id)).Nodup ∧ ∃ os w, executeBulk .system .claim b (⟨⟨9, 0⟩, 9⟩, s) = (.ok os, w) ∧
      os.map (·.succeeded) = [true, false, false] ∧
      OneByOne .system .claim b ⟨⟨9, 0⟩, 9⟩ s os w := by
  intro b s
  refine ⟨by decide, ?_⟩
  have hactive : Context.system.cancelled = false := rfl
  have hitems : b.items ≠ [] := by decide
  obtain ⟨os, w, hbulk, hone⟩ := bulk_one_by_one openRows ⟨⟨0, 0⟩, 0⟩ [.call 0, .call 1] hactive
    hitems .claim ⟨⟨9, 0⟩, 9⟩
  refine ⟨os, w, hbulk, ?_, hone⟩
  have hruns : (executeBulk .system .claim b (⟨⟨9, 0⟩, 9⟩, s)).1.toOption.map
      (fun os => os.map (·.succeeded)) = some [true, false, false] := by decide +kernel
  rw [hbulk] at hruns
  exact Option.some.inj hruns

end Queue

end Backoffice.Assignment

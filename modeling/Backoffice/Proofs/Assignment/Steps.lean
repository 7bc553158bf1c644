import Backoffice.Assignment.Queue
import Backoffice.Proofs.Call
import Backoffice.Proofs.Interleaving

namespace Backoffice.Assignment.Queue

structure Request where
  ctx : Context
  op : Operation
  action : Action

namespace Request

def filled (q : Request) : Action := { q.action with actorId := actor q.ctx q.action.actorId }

end Request

inductive Event where
  | created (ctx : Context) (d : Draft) (r : Except Fault Assignment)
  | listed
  /-- The row was read and changed in the copy; the write is to come. -/
  | looked (q : Request)
  | ended (q : Request) (r : Except Fault Assignment)

def look (q : Request) : Call Store Plan := do
  let action ← Call.ofExcept (letIn q.ctx q.action)
  let current ← Call.asks fun s => s.get q.ctx action.id
  Call.ofExcept (prepare q.op action current (← Call.now))

def commit (q : Request) (row : Assignment) : Call Store Assignment :=
  Call.atomic fun s => s.replace q.ctx row q.action.expectedVersion

def lookEvent (q : Request) : Except Fault Plan → Event
  | .ok (.replay row) => .ended q (.ok row)
  | .ok (.write _) => .looked q
  | .error f => .ended q (.error f)

def executeSteps (q : Request) : Process Event Store Assignment := do
  match ← Process.atomically (look q) (lookEvent q) with
  | .replay row => pure row
  | .write row => Process.atomically (commit q row) (.ended q)

def itemSteps (ctx : Context) (op : Operation) (action : Action) : Process Event Store Outcome := do
  .done ctx.ensureActive
  pure ⟨action.id, ← (executeSteps ⟨ctx, op, action⟩).attempt⟩

def executeBulkSteps (ctx : Context) (op : Operation) (b : BulkAction) :
    Process Event Store (List Outcome) := do
  if b.items.isEmpty then .done (.error (.invalid "items" "bulk operations need at least one item"))
  b.actions.mapM (itemSteps ctx op)

def process (ctx : Context) : Command → Process Event Store Answer
  | .create d => Answer.row <$> Process.atomically (create ctx d) (.created ctx d)
  | .list f => Answer.rows <$> Process.atomically (list ctx f) fun _ => .listed
  | .single op action => Answer.row <$> executeSteps ⟨ctx, op, action⟩
  | .bulk op b => Answer.outcomes <$> executeBulkSteps ctx op b

theorem letIn_eq_ok {ctx : Context} {action entered : Action} (h : letIn ctx action = .ok entered) :
    ctx.ensureActive = .ok () ∧ entered = { action with actorId := actor ctx action.actorId } ∧
      entered.validate = .ok () := by
  unfold letIn at h
  cases hctx : ctx.ensureActive with
  | error f => simp [hctx, bind, Except.bind] at h
  | ok u =>
    simp only [hctx, bind, Except.bind] at h
    split at h
    · cases h
    · cases h
      exact ⟨rfl, rfl, by assumption⟩

theorem execute_eq (q : Request) :
    execute q.ctx q.op q.action = look q >>= fun plan =>
      match plan with
      | .replay row => pure row
      | .write row => commit q row := by
  unfold execute look
  cases h : letIn q.ctx q.action with
  | error f => rfl
  | ok entered =>
    obtain ⟨-, rfl, -⟩ := letIn_eq_ok h
    simp only [Call.ofExcept_ok, pure_bind, bind_assoc]
    refine bind_congr fun current => bind_congr fun now => bind_congr fun plan => ?_
    cases plan <;> rfl

theorem run_executeSteps (q : Request) :
    (executeSteps q).run = execute q.ctx q.op q.action := by
  rw [execute_eq, executeSteps, Process.run_bind, Process.run_atomically]
  congr 1
  funext plan
  cases plan <;> rfl

theorem run_itemSteps (ctx : Context) (op : Operation) (action : Action) :
    (itemSteps ctx op action).run = (do
      Call.ofExcept ctx.ensureActive
      pure ⟨action.id, ← Call.attempt (execute ctx op action)⟩) := by
  simp [itemSteps, run_executeSteps]

theorem run_executeBulkSteps (ctx : Context) (op : Operation) (b : BulkAction) :
    (executeBulkSteps ctx op b).run = executeBulk ctx op b := by
  unfold executeBulkSteps executeBulk
  split
  · rfl
  · simp only [Process.run_mapM, run_itemSteps]

theorem run_process (ctx : Context) (c : Command) : (process ctx c).run = run ctx c := by
  cases c with
  | create d => simp [process, run]
  | list f => simp [process, run]
  | single op action => simp [process, run, run_executeSteps]
  | bulk op b => simp [process, run, run_executeBulkSteps]

end Backoffice.Assignment.Queue

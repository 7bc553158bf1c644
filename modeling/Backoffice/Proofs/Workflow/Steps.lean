import Backoffice.Proofs.Interleaving
import Backoffice.Proofs.Workflow.Basic
import Backoffice.Workflow.Runtime

namespace Backoffice.Workflow.Runtime

inductive Command where
  | createWorkflow (d : Draft)
  | updateWorkflow (id : String) (u : Update) (expected : Nat)
  | rollbackWorkflow (id : String) (target expected : Nat)
  | createBinding (d : Binding.Draft)
  | updateBinding (id : String) (u : Binding.Update) (expected : Nat)
  | deleteBinding (id : String)
  | bindEngine

inductive Answer where
  | workflow (w : Workflow)
  | binding (b : Binding)
  | removed
  | count (n : Nat)

namespace Command

def call (ctx : Context) : Command → Call Runtime Answer
  | createWorkflow d => Answer.workflow <$> Runtime.createWorkflow ctx d
  | updateWorkflow id u expected => Answer.workflow <$> Runtime.updateWorkflow ctx id u expected
  | rollbackWorkflow id target expected =>
    Answer.workflow <$> Runtime.rollbackWorkflow ctx id target expected
  | createBinding d => Answer.binding <$> Runtime.createBinding ctx d
  | updateBinding id u expected => Answer.binding <$> Runtime.updateBinding ctx id u expected
  | deleteBinding id => (fun _ => Answer.removed) <$> Runtime.deleteBinding ctx id
  | bindEngine => Answer.count <$> Runtime.bindEngine ctx

end Command

inductive Event where
  | looked
  | read (id : String) (r : Except Fault Binding)
  | workflow (candidate : Workflow) (r : Except Fault Workflow)
  | binding (candidate : Binding) (r : Except Fault Binding)
  | removal (id : String) (r : Except Fault Unit)
  | engine

variable {α : Type}

def drawing (make : Instant → String → α) (validate : α → Except Fault Unit) : Call Runtime α := do
  let a := make (← Call.now) (← Call.fresh)
  Call.ofExcept (validate a)
  pure a

def reading (expected : Nat) (get : Store → Except Fault α) : Call Runtime α := do
  Call.ofExcept (Version.requireExpected expected)
  Call.asks fun r => get r.store

def changing (change : Instant → α) (validate : α → Except Fault Unit) : Call Runtime α := do
  let a := change (← Call.now)
  Call.ofExcept (validate a)
  pure a

def readRevision (ctx : Context) (id : String) (target : Nat) : Call Runtime Revision :=
  Call.asks fun r =>
    match r.store.getRevision ctx id target with
    | .ok revision => .ok revision
    | .error f => .error (if f.isNotFound then .noRevision id target else f)

def register (w : Workflow) : Call Runtime Unit :=
  Call.update fun r => do
    .ok { r with engine := ← r.engine.register w.id w.definition }

def looking (c : Call Runtime α) : Process Event Runtime α :=
  .atomically c fun _ => .looked

def followSteps (w : Workflow) : Process Event Runtime Workflow := do
  Process.atomically (follow w) fun _ => .engine
  pure w

def createWorkflowSteps (ctx : Context) (d : Draft) : Process Event Runtime Workflow := do
  let w ← looking (drawing d.workflow Workflow.validate)
  followSteps (← .atomically (onStore fun s => s.insertWorkflow ctx w) (.workflow w))

def updateWorkflowSteps (ctx : Context) (id : String) (u : Update) (expected : Nat) :
    Process Event Runtime Workflow := do
  let current ← looking (reading expected fun s => s.getWorkflow ctx (Text.key id))
  let w ← looking (changing (u.applyTo · current) Workflow.validate)
  followSteps (← .atomically (onStore fun s => s.replaceWorkflow ctx w expected) (.workflow w))

def rollbackWorkflowSteps (ctx : Context) (id : String) (target expected : Nat) :
    Process Event Runtime Workflow := do
  let _ ← looking (reading expected fun s => s.getWorkflow ctx (Text.key id))
  let revision ← looking (readRevision ctx (Text.key id) target)
  updateWorkflowSteps ctx (Text.key id) (.ofRevision revision) expected

def createBindingSteps (ctx : Context) (d : Binding.Draft) : Process Event Runtime Binding := do
  let b ← looking (drawing d.binding Binding.validate)
  .atomically (onStore fun s => s.insertBinding ctx b) (.binding b)

def updateBindingSteps (ctx : Context) (id : String) (u : Binding.Update) (expected : Nat) :
    Process Event Runtime Binding := do
  let current ← .atomically (reading expected fun s => s.getBinding ctx (Text.trim id))
    (.read (Text.trim id))
  let b ← looking (changing (u.applyTo · current) Binding.validate)
  .atomically (onStore fun s => s.replaceBinding ctx b expected) (.binding b)

def bindEngineSteps (ctx : Context) : Process Event Runtime Nat := do
  let active ← looking (Call.asks fun r =>
    r.store.listWorkflows ctx { Filter.all with status := some .active })
  forM active fun w => .atomically (register w) fun _ => .engine
  Process.atomically (Call.change fun r => { r with bound := true }) fun _ => .engine
  pure active.length

def process (ctx : Context) : Command → Process Event Runtime Answer
  | .createWorkflow d => Answer.workflow <$> createWorkflowSteps ctx d
  | .updateWorkflow id u expected => Answer.workflow <$> updateWorkflowSteps ctx id u expected
  | .rollbackWorkflow id target expected =>
    Answer.workflow <$> rollbackWorkflowSteps ctx id target expected
  | .createBinding d => Answer.binding <$> createBindingSteps ctx d
  | .updateBinding id u expected => Answer.binding <$> updateBindingSteps ctx id u expected
  | .deleteBinding id => (fun _ => Answer.removed) <$>
    Process.atomically (deleteBinding ctx id) (.removal (Text.trim id))
  | .bindEngine => Answer.count <$> bindEngineSteps ctx

@[simp] theorem run_looking (c : Call Runtime α) : (looking c).run = c := rfl

@[simp] theorem run_followSteps (w : Workflow) :
    (followSteps w).run = (do follow w; pure w) := by
  simp only [followSteps, Process.run_bind, Process.run_atomically, Process.run_pure]

theorem run_createWorkflowSteps (ctx : Context) (d : Draft) :
    (createWorkflowSteps ctx d).run = createWorkflow ctx d := by
  simp only [createWorkflowSteps, createWorkflow, drawing, Process.run_bind, run_looking,
    Process.run_atomically, run_followSteps, bind_assoc, pure_bind]

theorem run_updateWorkflowSteps (ctx : Context) (id : String) (u : Update) (expected : Nat) :
    (updateWorkflowSteps ctx id u expected).run = updateWorkflow ctx id u expected := by
  simp only [updateWorkflowSteps, updateWorkflow, reading, changing, Process.run_bind,
    run_looking, Process.run_atomically, run_followSteps, bind_assoc, pure_bind]

theorem run_rollbackWorkflowSteps (ctx : Context) (id : String) (target expected : Nat) :
    (rollbackWorkflowSteps ctx id target expected).run =
      rollbackWorkflow ctx id target expected := by
  simp only [rollbackWorkflowSteps, rollbackWorkflow, reading, Process.run_bind, run_looking,
    run_updateWorkflowSteps, bind_assoc]
  rfl

theorem run_createBindingSteps (ctx : Context) (d : Binding.Draft) :
    (createBindingSteps ctx d).run = createBinding ctx d := by
  simp only [createBindingSteps, createBinding, drawing, Process.run_bind, run_looking,
    Process.run_atomically, bind_assoc, pure_bind]

theorem run_updateBindingSteps (ctx : Context) (id : String) (u : Binding.Update)
    (expected : Nat) :
    (updateBindingSteps ctx id u expected).run = updateBinding ctx id u expected := by
  simp only [updateBindingSteps, updateBinding, reading, changing, Process.run_bind,
    run_looking, Process.run_atomically, bind_assoc, pure_bind]

theorem run_bindEngineSteps (ctx : Context) : (bindEngineSteps ctx).run = bindEngine ctx := by
  simp [bindEngineSteps, bindEngine, register]

theorem run_process (ctx : Context) (c : Command) : (process ctx c).run = c.call ctx := by
  cases c with
  | createWorkflow d => simp only [process, Command.call, Process.run_map, run_createWorkflowSteps]
  | updateWorkflow id u expected =>
    simp only [process, Command.call, Process.run_map, run_updateWorkflowSteps]
  | rollbackWorkflow id target expected =>
    simp only [process, Command.call, Process.run_map, run_rollbackWorkflowSteps]
  | createBinding d => simp only [process, Command.call, Process.run_map, run_createBindingSteps]
  | updateBinding id u expected =>
    simp only [process, Command.call, Process.run_map, run_updateBindingSteps]
  | deleteBinding id => simp only [process, Command.call, Process.run_map, Process.run_atomically]
  | bindEngine => simp only [process, Command.call, Process.run_map, run_bindEngineSteps]

inductive Allowed : Event → Runtime → Runtime → Prop
  | looked {r} : Allowed .looked r r
  | read {id x} {r : Runtime} : (∀ b, x = .ok b → r.store.bindings.get? id = some b) →
      Allowed (.read id x) r r
  | engine {r r' : Runtime} : r'.store = r.store → Allowed .engine r r'
  | workflowRefused {w f r} : Allowed (.workflow w (.error f)) r r
  | workflowInserted {w : Workflow} {r : Runtime} : r.store.workflows.get? w.id = none →
      w.version = 1 → Allowed (.workflow w (.ok w)) r { r with store := r.store.write w }
  | workflowReplaced {w current stored : Workflow} {r : Runtime} :
      r.store.workflows.get? w.id = some current →
      stored = { w with version := current.version + 1, createdAt := current.createdAt } →
      Allowed (.workflow w (.ok stored)) r { r with store := r.store.write stored }
  | bindingRefused {b f r} : (∀ {id t ref e p}, f = .bindingTaken id t ref e p →
      r.store.checkUnique b = .error f) → Allowed (.binding b (.error f)) r r
  | bindingWritten {b stored : Binding} {r : Runtime} :
      stored.id = b.id → stored.active = b.active → stored.place = b.place →
      r.store.checkReference stored = .ok () → r.store.checkUnique stored = .ok () →
      stored.Succeeds (r.store.bindings.get? b.id) → Allowed (.binding b (.ok stored)) r
        { r with store := { r.store with bindings := r.store.bindings.set stored.id stored } }
  | notRemoved {id f r} : Allowed (.removal id (.error f)) r r
  | removed {id} {r : Runtime} : Allowed (.removal id (.ok ())) r
      { r with store := { r.store with bindings := r.store.bindings.erase id } }

theorem onStore_apply (f : Store → Except Fault (α × Store)) (supply : Supply)
    (r : Runtime) : onStore f (supply, r) = match f r.store with
      | .ok (a, store) => (.ok a, supply, { r with store })
      | .error e => (.error e, supply, r) := by
  rw [onStore, Call.atomic_apply]
  cases f r.store with
  | error e => rfl
  | ok x => rfl

theorem keeps_looking {c : Call Runtime α} (hc : c.Quiet)
    {Q : Except Fault α → Prop} (hQ : ∀ s, Q (c s).1) (r : Runtime) :
    (looking c).Meets (.free Allowed) (fun x _ => Q x) r := by
  apply Process.meets_atomically
  intro supply t _ _
  rw [hc (supply, t)]
  exact ⟨.looked, hQ _⟩

theorem drawing_identifier (make : Instant → String → α) (validate : α → Except Fault Unit)
    (s : Supply × Runtime) : ∃ now n, (drawing make validate s).1 =
      (do validate (make now (Supply.identifier n)); .ok (make now (Supply.identifier n))) := by
  refine ⟨s.1.now.1, s.1.now.2.drawn, ?_⟩
  simp only [drawing, Call.bind_apply, Call.now_apply, Call.fresh_apply, Call.ofExcept_apply]
  rw [Supply.fresh]
  cases validate (make s.1.now.1 (Supply.identifier s.1.now.2.drawn)) <;> rfl

theorem drawing_fst (make : Instant → String → α) (validate : α → Except Fault Unit)
    (s : Supply × Runtime) : ∃ now fresh, (drawing make validate s).1 =
      (do validate (make now fresh); .ok (make now fresh)) := by
  obtain ⟨now, n, h⟩ := drawing_identifier make validate s
  exact ⟨now, _, h⟩

theorem reading_fst (expected : Nat) (get : Store → Except Fault α) (s : Supply × Runtime) :
    (reading expected get s).1 = (do Version.requireExpected expected; get s.2.store) := by
  simp only [reading, Call.bind_apply, Call.asks_apply, Call.ofExcept_apply]
  cases Version.requireExpected expected <;> rfl

theorem changing_fst (change : Instant → α) (validate : α → Except Fault Unit)
    (s : Supply × Runtime) : ∃ now, (changing change validate s).1 =
      (do validate (change now); .ok (change now)) := by
  refine ⟨s.1.now.1, ?_⟩
  simp only [changing, Call.bind_apply, Call.now_apply, Call.ofExcept_apply]
  cases validate (change s.1.now.1) <;> rfl

theorem quiet_drawing (make : Instant → String → α) (validate : α → Except Fault Unit) :
    (drawing make validate).Quiet :=
  Call.quiet_now.bind fun _ => Call.quiet_fresh.bind fun _ =>
    (Call.quiet_ofExcept _).bind fun _ => Call.quiet_pure _

theorem quiet_reading (expected : Nat) (get : Store → Except Fault α) :
    (reading expected get).Quiet :=
  (Call.quiet_ofExcept _).bind fun _ => Call.quiet_asks _

theorem quiet_changing (change : Instant → α) (validate : α → Except Fault Unit) :
    (changing change validate).Quiet :=
  Call.quiet_now.bind fun _ => (Call.quiet_ofExcept _).bind fun _ => Call.quiet_pure _

def Drawn (make : Instant → String → α) (x : Except Fault α) : Prop :=
  ∀ a, x = .ok a → ∃ now fresh, a = make now fresh

theorem drawn_drawing (make : Instant → String → α) (validate : α → Except Fault Unit)
    (s : Supply × Runtime) : Drawn make (drawing make validate s).1 := by
  intro a h
  obtain ⟨now, fresh, hfst⟩ := drawing_fst make validate s
  rw [hfst] at h
  obtain ⟨_, -, h⟩ := bind_eq_ok.1 h
  cases h
  exact ⟨now, fresh, rfl⟩

def Changed (change : Instant → α) (x : Except Fault α) : Prop :=
  ∀ a, x = .ok a → ∃ now, a = change now

theorem changed_changing (change : Instant → α) (validate : α → Except Fault Unit)
    (s : Supply × Runtime) : Changed change (changing change validate s).1 := by
  intro a h
  obtain ⟨now, hfst⟩ := changing_fst change validate s
  rw [hfst] at h
  obtain ⟨_, -, h⟩ := bind_eq_ok.1 h
  cases h
  exact ⟨now, rfl⟩

theorem store_register (w : Workflow) (supply : Supply) (r : Runtime) :
    (register w (supply, r)).2.2.store = r.store := by
  rw [register, Call.update_apply]
  dsimp only
  cases r.engine.register w.id w.definition with
  | error f => rfl
  | ok engine => rfl

theorem store_follow (w : Workflow) (supply : Supply) (r : Runtime) :
    (follow w (supply, r)).2.2.store = r.store := by
  rw [follow, Call.update_apply]
  dsimp only
  split
  · rename_i t h
    split at h
    · obtain ⟨engine, -, h⟩ := bind_eq_ok.1 h
      cases h
      rfl
    · cases h
      rfl
  · rfl

theorem keeps_followSteps (w : Workflow) (r : Runtime) :
    (followSteps w).Keeps (.free Allowed) r := by
  refine Process.Keeps.bind ?_ fun _ _ => trivial
  exact Process.meets_atomically fun supply t _ _ => ⟨.engine (store_follow w supply t), trivial⟩

theorem keeps_createWorkflowSteps (ctx : Context) (d : Draft) (r : Runtime) :
    (createWorkflowSteps ctx d).Keeps (.free Allowed) r := by
  apply (keeps_looking (quiet_drawing _ _) (drawn_drawing d.workflow Workflow.validate) r).bind
  · intro w t hw
    obtain ⟨now, fresh, hw⟩ := hw w rfl
    refine Process.Keeps.bind ?_ keeps_followSteps
    apply Process.meets_atomically
    intro supply u _ _
    refine ⟨?_, trivial⟩
    rw [onStore_apply]
    cases h : u.store.insertWorkflow ctx w with
    | error f => exact .workflowRefused
    | ok x =>
      obtain ⟨v, store⟩ := x
      obtain ⟨rfl, habsent, rfl⟩ := Store.insertWorkflow_eq_ok h
      exact .workflowInserted habsent (by rw [hw]; rfl)
  · intros
    trivial

theorem keeps_updateWorkflowSteps (ctx : Context) (id : String) (u : Update) (expected : Nat)
    (r : Runtime) : (updateWorkflowSteps ctx id u expected).Keeps (.free Allowed) r := by
  refine Process.Keeps.bind (keeps_looking (quiet_reading _ _) (fun _ => trivial) r) ?_
  intro current t
  refine Process.Keeps.bind (keeps_looking (quiet_changing _ _) (fun _ => trivial) t) ?_
  intro w t
  refine Process.Keeps.bind ?_ keeps_followSteps
  apply Process.meets_atomically
  intro supply t _ _
  refine ⟨?_, trivial⟩
  rw [onStore_apply]
  cases h : t.store.replaceWorkflow ctx w expected with
  | error f => exact .workflowRefused
  | ok x =>
    obtain ⟨stored, store⟩ := x
    obtain ⟨current, hcurrent, -, hstored, rfl⟩ := Store.replaceWorkflow_eq_ok h
    exact .workflowReplaced hcurrent hstored

theorem keeps_rollbackWorkflowSteps (ctx : Context) (id : String) (target expected : Nat)
    (r : Runtime) :
    (rollbackWorkflowSteps ctx id target expected).Keeps (.free Allowed) r := by
  refine Process.Keeps.bind (keeps_looking (quiet_reading _ _) (fun _ => trivial) r) ?_
  intro _ t
  refine Process.Keeps.bind (keeps_looking (Call.quiet_asks _) (fun _ => trivial) t) ?_
  intro revision t
  exact keeps_updateWorkflowSteps ctx _ _ expected t

theorem keeps_createBindingSteps (ctx : Context) (d : Binding.Draft) (r : Runtime) :
    (createBindingSteps ctx d).Keeps (.free Allowed) r := by
  refine (keeps_looking (quiet_drawing _ _) (drawn_drawing d.binding Binding.validate) r).bind ?_
    fun _ _ _ => trivial
  intro b t hb
  obtain ⟨now, fresh, hb⟩ := hb b rfl
  apply Process.meets_atomically
  intro supply t _ _
  refine ⟨?_, trivial⟩
  rw [onStore_apply]
  cases h : t.store.insertBinding ctx b with
  | error f =>
    refine .bindingRefused ?_
    rintro id t ref e p rfl
    exact Store.insertBinding_taken h
  | ok x =>
    obtain ⟨stored, store⟩ := x
    obtain ⟨habsent, h⟩ := Store.insertBinding_eq_ok h
    obtain ⟨rfl, href, hunique, rfl⟩ := Store.writeBinding_eq_ok h
    refine .bindingWritten rfl rfl rfl href hunique ⟨?_, fun current hcurrent => ?_⟩
    · rw [hb]
      exact Binding.normalized_normalized _
    · cases habsent.symm.trans hcurrent

theorem keeps_updateBindingSteps (ctx : Context) (id : String) (u : Binding.Update)
    (expected : Nat) (r : Runtime) :
    (updateBindingSteps ctx id u expected).Keeps (.free Allowed) r := by
  have hread : (Process.atomically (reading expected fun s => s.getBinding ctx (Text.trim id))
      (Event.read (Text.trim id))).Keeps (.free Allowed) r := by
    apply Process.meets_atomically
    intro supply t _ _
    rw [quiet_reading _ _ (supply, t)]
    refine ⟨.read fun b hb => ?_, trivial⟩
    rw [reading_fst] at hb
    obtain ⟨_, -, hget⟩ := bind_eq_ok.1 hb
    exact (Store.getBinding_eq_ok hget).2
  refine Process.Keeps.bind hread ?_
  intro current t
  refine (keeps_looking (quiet_changing _ _) (changed_changing (u.applyTo · current) _) t).bind ?_
    fun _ _ _ => trivial
  intro b t hb
  have hnormal : b.normalized = b := by
    obtain ⟨now, hb⟩ := hb b rfl
    rw [hb]
    exact Binding.normalized_normalized _
  apply Process.meets_atomically
  intro supply t _ _
  refine ⟨?_, trivial⟩
  rw [onStore_apply]
  cases h : t.store.replaceBinding ctx b expected with
  | error f =>
    refine .bindingRefused ?_
    rintro id t ref e p rfl
    exact Store.replaceBinding_taken h
  | ok x =>
    obtain ⟨stored, store⟩ := x
    obtain ⟨replaced, hreplaced, -, h⟩ := Store.replaceBinding_eq_ok h
    obtain ⟨rfl, href, hunique, rfl⟩ := Store.writeBinding_eq_ok h
    refine .bindingWritten rfl rfl rfl href hunique
      ⟨Binding.normalized_stamped hnormal _ _, fun other hother => ?_⟩
    cases hreplaced.symm.trans hother
    rfl

theorem keeps_registering (w : Workflow) (r : Runtime) :
    (Process.atomically (register w) fun _ => Event.engine).Keeps (.free Allowed) r := by
  apply Process.meets_atomically
  intro supply t _ _
  refine ⟨?_, trivial⟩
  exact .engine (store_register w supply t)

theorem keeps_bindEngineSteps (ctx : Context) (r : Runtime) :
    (bindEngineSteps ctx).Keeps (.free Allowed) r := by
  refine Process.Keeps.bind (keeps_looking (Call.quiet_asks _) (fun _ => trivial) r) ?_
  intro active t
  refine Process.Keeps.bind (Process.keeps_forM keeps_registering active t) ?_
  intro _ t
  refine Process.Keeps.bind ?_ fun _ _ => trivial
  exact Process.meets_atomically fun supply t _ _ => ⟨.engine rfl, trivial⟩

theorem keeps_process (ctx : Context) (c : Command) (r : Runtime) :
    (process ctx c).Keeps (.free Allowed) r := by
  cases c with
  | createWorkflow d => exact (keeps_createWorkflowSteps ctx d r).map _
  | updateWorkflow id u expected => exact (keeps_updateWorkflowSteps ctx id u expected r).map _
  | rollbackWorkflow id target expected =>
    exact (keeps_rollbackWorkflowSteps ctx id target expected r).map _
  | createBinding d => exact (keeps_createBindingSteps ctx d r).map _
  | updateBinding id u expected => exact (keeps_updateBindingSteps ctx id u expected r).map _
  | deleteBinding id =>
    apply Process.Keeps.map
    apply Process.meets_atomically
    intro supply t _ _
    refine ⟨?_, trivial⟩
    rw [deleteBinding, onStore_apply]
    cases h : t.store.deleteBinding ctx (Text.trim id) with
    | error f => exact .notRemoved
    | ok store =>
      cases Store.deleteBinding_eq_ok h
      exact .removed
  | bindEngine => exact (keeps_bindEngineSteps ctx r).map _

end Backoffice.Workflow.Runtime

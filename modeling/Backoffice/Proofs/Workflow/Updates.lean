import Backoffice.Proofs.Workflow.ActiveBindings
import Backoffice.Proofs.Workflow.Effects

namespace Backoffice.Workflow

variable {α : Type}

/-- `new` has the fields of `old` that the update does not name. -/
structure Update.Spares (u : Update) (old new : Workflow) : Prop where
  id : new.id = old.id
  createdAt : new.createdAt = old.createdAt
  name : u.name = .none → new.name = old.name
  status : u.status = .none → new.status = old.status
  environment : u.environment = .none → new.environment = old.environment
  definition : u.definition = .none → new.definition = old.definition

theorem Update.spares_applyTo (u : Update) (now : Instant) (w : Workflow) (version : Nat) :
    u.Spares w { u.applyTo now w with version, createdAt := w.createdAt } := by
  constructor
  case id => rfl
  case createdAt => rfl
  all_goals
    intro h
    simp [applyTo, h]

namespace Binding

/-- `new` has the fields of `old` that the update does not name; only a binding made global gets the
reference of all global bindings. -/
structure Update.Spares (u : Update) (old new : Binding) : Prop where
  id : new.id = old.id
  createdAt : new.createdAt = old.createdAt
  scopeType : u.scopeType = .none → new.scopeType = old.scopeType
  scopeRef : u.scopeRef = .none → u.scopeType ≠ some .global → new.scopeRef = old.scopeRef
  globalRef : u.scopeType = some .global → new.scopeRef = Binding.globalRef
  workflowId : u.workflowId = .none → new.workflowId = old.workflowId
  priority : u.priority = .none → new.priority = old.priority
  active : u.active = .none → new.active = old.active
  environment : u.environment = .none → new.environment = old.environment

theorem key_scopeRef {b : Binding} (h : b.normalized = b) : Text.key b.scopeRef = b.scopeRef := by
  rw [← h]
  unfold normalized
  dsimp only
  split
  · decide
  · exact Text.key_key _

theorem Update.spares_applyTo (u : Update) (now : Instant) {b : Binding} (h : b.normalized = b)
    (version : Nat) :
    u.Spares b { u.applyTo now b with version, createdAt := b.createdAt } := by
  constructor
  case id => rfl
  case createdAt => rfl
  case scopeRef =>
    intro href htype
    simp only [applyTo, normalized, href, Option.getD_none, key_scopeRef h]
    split
    · rename_i hglobal
      cases hu : u.scopeType with
      | none =>
        simp only [hu, Option.getD_none] at hglobal
        have hb := congrArg Binding.scopeRef h
        simpa [normalized, hglobal] using hb
      | some t =>
        simp only [hu, Option.getD_some, beq_iff_eq] at hglobal
        exact absurd (hglobal ▸ hu) htype
    · rfl
  case globalRef =>
    intro htype
    simp [applyTo, normalized, htype]
  case workflowId =>
    intro hu
    simpa [applyTo, normalized, hu] using congrArg Binding.workflowId h
  case environment =>
    intro hu
    simpa [applyTo, normalized, hu] using congrArg Binding.environment h
  all_goals
    intro hu
    simp [applyTo, normalized, hu]

end Binding

structure Store.Normal (s : Store) : Prop where
  filed : s.Filed
  normal : ∀ {id b}, s.bindings.get? id = some b → b.normalized = b

theorem Store.normal_empty : Normal .empty where
  filed := filed_empty
  normal h := by cases h

def Continues (version : α → Nat) (before after : Option α) : Prop :=
  ∀ a, before = some a → ∃ b, after = some b ∧ (b = a ∨ version a < version b)

theorem Continues.refl (version : α → Nat) (row : Option α) : Continues version row row :=
  fun a ha => ⟨a, ha, .inl rfl⟩

theorem Continues.trans {version : α → Nat} {x y z : Option α} (hxy : Continues version x y)
    (hyz : Continues version y z) : Continues version x z := by
  intro a ha
  obtain ⟨b, hb, hab⟩ := hxy a ha
  obtain ⟨c, hc, hbc⟩ := hyz b hb
  refine ⟨c, hc, ?_⟩
  rcases hab with rfl | hab
  · exact hbc
  · rcases hbc with rfl | hbc
    · exact .inr hab
    · exact .inr (hab.trans hbc)

theorem Continues.eq_of_le {version : α → Nat} {a b : α} (h : Continues version (some a) (some b))
    (hle : version b ≤ version a) : b = a := by
  obtain ⟨_, ⟨⟩, rfl | hlt⟩ := h a rfl
  · rfl
  · omega

namespace Runtime

theorem Allowed.normal {e : Event} {r r' : Runtime} (hr : r.store.Normal) (h : Allowed e r r') :
    r'.store.Normal := by
  cases h with
  | looked | read | workflowRefused | bindingRefused | notRemoved => exact hr
  | engine hstore => rwa [hstore]
  | workflowInserted | workflowReplaced => exact ⟨hr.filed.write _, hr.normal⟩
  | bindingWritten _ _ _ _ _ hnext =>
    refine ⟨hr.filed.putBinding _, fun {id c} hc => ?_⟩
    rw [Dict.get?_set] at hc
    split at hc
    · cases hc
      exact hnext.normal
    · exact hr.normal hc
  | removed =>
    refine ⟨hr.filed.dropBinding _, fun {id c} hc => ?_⟩
    rw [Dict.get?_erase] at hc
    split at hc
    · cases hc
    · exact hr.normal hc

theorem Allowed.continues_workflow {e : Event} {r r' : Runtime} (h : Allowed e r r') (id : String) :
    Continues (·.version) (r.store.workflows.get? id) (r'.store.workflows.get? id) := by
  cases h with
  | looked | read | workflowRefused | bindingRefused | bindingWritten | notRemoved | removed =>
    exact .refl _ _
  | engine hstore =>
    rw [hstore]
    exact .refl _ _
  | workflowInserted habsent hone =>
    intro a ha
    rw [Store.get?_write]
    split
    · rename_i hid
      rw [hid, habsent] at ha
      cases ha
    · exact ⟨a, ha, .inl rfl⟩
  | workflowReplaced hcurrent hstored =>
    intro a ha
    rw [Store.get?_write]
    split
    · rename_i hid
      subst hstored
      rw [hid, hcurrent] at ha
      cases ha
      exact ⟨_, rfl, .inr (Nat.lt_succ_self _)⟩
    · exact ⟨a, ha, .inl rfl⟩

theorem Allowed.continues_binding {e : Event} {r r' : Runtime} (h : Allowed e r r') {id : String}
    (hkept : e ≠ .removal id (.ok ())) :
    Continues (·.version) (r.store.bindings.get? id) (r'.store.bindings.get? id) := by
  cases h with
  | looked | read | workflowRefused | workflowInserted | workflowReplaced | bindingRefused
  | notRemoved => exact .refl _ _
  | engine hstore =>
    rw [hstore]
    exact .refl _ _
  | bindingWritten hid _ _ _ _ hnext =>
    intro a ha
    rw [Dict.get?_set]
    split
    · rename_i heq
      rw [← hid, ← heq, ha] at hnext
      have hversion := hnext.version a rfl
      exact ⟨_, rfl, .inr (by dsimp only; omega)⟩
    · exact ⟨a, ha, .inl rfl⟩
  | removed =>
    intro a ha
    rw [Dict.get?_erase]
    split
    · rename_i heq
      subst heq
      exact absurd rfl hkept
    · exact ⟨a, ha, .inl rfl⟩

theorem continues_workflows {r r' : Runtime} {ms : List (Moment Event Runtime)}
    (hrun : (Contract.free Allowed).Allows r ms r') (id : String) :
    Continues (·.version) (r.store.workflows.get? id) (r'.store.workflows.get? id) :=
  hrun.closed (R := fun r r' => Continues (·.version) (r.store.workflows.get? id)
    (r'.store.workflows.get? id)) (fun _ => .refl _ _) .trans
    fun _ _ hallowed => hallowed.continues_workflow id

theorem continues_bindings {r r' : Runtime} {ms : List (Moment Event Runtime)}
    (hrun : (Contract.free Allowed).Allows r ms r') {id : String}
    (hkept : ∀ m ∈ ms, m.event ≠ .removal id (.ok ())) :
    Continues (·.version) (r.store.bindings.get? id) (r'.store.bindings.get? id) :=
  hrun.closed (R := fun r r' => Continues (·.version) (r.store.bindings.get? id)
    (r'.store.bindings.get? id)) (fun _ => .refl _ _) .trans
    fun m hm hallowed => Allowed.continues_binding hallowed (hkept m hm)

/-- The first moment of call `i`, at which it read, a later one at which it wrote, and what happened
between. -/
structure Span (ms : List (Moment Event Runtime)) (i : Nat) where
  earlier : List (Moment Event Runtime)
  read : Moment Event Runtime
  between : List (Moment Event Runtime)
  write : Moment Event Runtime
  later : List (Moment Event Runtime)
  split : ms = earlier ++ read :: (between ++ write :: later)
  first : ∀ m ∈ earlier, m.call ≠ i
  read_call : read.call = i
  write_call : write.call = i

variable {ms : List (Moment Event Runtime)} {i : Nat}

theorem span_of_filter {m₁ m₂ m₃ : Moment Event Runtime} {rest : List (Moment Event Runtime)}
    (h : ms.filter (·.call == i) = m₁ :: m₂ :: m₃ :: rest) :
    ∃ span : Span ms i, span.read = m₁ ∧ span.write = m₃ := by
  obtain ⟨as, bs, rfl, hfirst, hread, h⟩ := List.filter_eq_cons_iff.1 h
  obtain ⟨cs, ds, rfl, -, -, h⟩ := List.filter_eq_cons_iff.1 h
  obtain ⟨es, fs, rfl, -, hwrite, -⟩ := List.filter_eq_cons_iff.1 h
  have hnot : ∀ m ∈ as, m.call ≠ i := fun m hm => by simpa using hfirst m hm
  exact ⟨⟨as, m₁, cs ++ m₂ :: es, m₃, fs, by simp, hnot, beq_iff_eq.1 hread, beq_iff_eq.1 hwrite⟩,
    rfl, rfl⟩

theorem Span.read_mem (span : Span ms i) : span.read ∈ ms := by
  obtain ⟨earlier, read, between, write, later, rfl, _⟩ := span
  simp

theorem Span.allows (span : Span ms i) {C : Contract Event Runtime} {r r' : Runtime}
    (hrun : C.Allows r ms r') :
    C.Allows span.read.before (span.read :: span.between) span.write.before := by
  rw [span.split] at hrun
  exact hrun.between

theorem does_reading {expected : Nat} {get : Store → Except Fault α}
    {shown : Except Fault α → Event} :
    (Process.atomically (reading expected get) shown).Does i fun ms x => ∃ m, ms = [m] ∧
      m.event = shown x ∧ ∀ a, x = .ok a → get m.before.store = .ok a := by
  refine Process.does_atomically fun s => ⟨_, rfl, rfl, fun a ha => ?_⟩
  rw [reading_fst] at ha
  obtain ⟨_, -, ha⟩ := bind_eq_ok.1 ha
  exact ha

theorem does_changing {change : Instant → α} {validate : α → Except Fault Unit} :
    (looking (changing change validate)).Does i fun ms x => ∃ m, ms = [m] ∧ Changed change x :=
  Process.does_atomically fun s => ⟨_, rfl, changed_changing change validate s⟩

theorem does_onStore {f : Store → Except Fault (α × Store)} {shown : Except Fault α → Event} :
    (Process.atomically (onStore f) shown).Does i fun ms x => ∃ m, ms = [m] ∧
      ∀ a, x = .ok a → f m.before.store = .ok (a, m.after.store) := by
  refine Process.does_atomically fun ⟨supply, r⟩ => ⟨_, rfl, fun a ha => ?_⟩
  rw [onStore_apply] at ha ⊢
  cases hf : f r.store with
  | error e =>
    rw [hf] at ha
    cases ha
  | ok y =>
    rw [hf] at ha
    cases ha
    rfl

section Rewriting

variable (expected : Nat) (get : Store → Except Fault α) (shown : Except Fault α → Event)
  (change : α → Instant → α) (validate : α → Except Fault Unit)
  (replace : α → Store → Except Fault (α × Store)) (offered : α → Except Fault α → Event)

def rewriteSteps : Process Event Runtime α := do
  let current ← .atomically (reading expected get) shown
  let a ← looking (changing (change current) validate)
  .atomically (onStore (replace a)) (offered a)

def Rewrites (ms : List (Moment Event Runtime)) (stored : α) : Prop :=
  ∃ read draw write rest row now, ms = read :: draw :: write :: rest ∧
    read.event = shown (.ok row) ∧ get read.before.store = .ok row ∧
    replace (change row now) write.before.store = .ok (stored, write.after.store)

theorem does_rewriteSteps :
    (rewriteSteps expected get shown change validate replace offered).Does i fun ms x =>
      ∀ stored, x = .ok stored → Rewrites get shown change replace ms stored := by
  apply does_reading.bind
  · rintro _ row ⟨read, rfl, hevent, hread⟩
    apply does_changing.bind
    · rintro _ a ⟨draw, rfl, hchanged⟩
      obtain ⟨now, rfl⟩ := hchanged a rfl
      refine does_onStore.imp ?_
      rintro _ x ⟨write, rfl, hwrite⟩ stored hstored
      exact ⟨read, draw, write, [], row, now, rfl, hevent, hread row rfl, hwrite stored hstored⟩
    · rintro _ e ⟨_, rfl, -⟩ stored ⟨⟩
  · rintro _ e ⟨_, rfl, -⟩ stored ⟨⟩

end Rewriting

theorem does_updateBindingSteps (ctx : Context) (id : String) (u : Binding.Update) (expected : Nat) :
    (updateBindingSteps ctx id u expected).Does i fun ms x => ∀ stored, x = .ok stored →
      Rewrites (·.getBinding ctx (Text.trim id)) (.read (Text.trim id)) (fun b now => u.applyTo now b)
        (fun b s => s.replaceBinding ctx b expected) ms stored :=
  does_rewriteSteps _ _ _ _ _ _ _

theorem does_updateWorkflowSteps (ctx : Context) (id : String) (u : Update) (expected : Nat) :
    (updateWorkflowSteps ctx id u expected).Does i fun ms x => ∀ stored, x = .ok stored →
      Rewrites (·.getWorkflow ctx (Text.key id)) (fun _ => .looked) (fun w now => u.applyTo now w)
        (fun w s => s.replaceWorkflow ctx w expected) ms stored := by
  have hsteps : updateWorkflowSteps ctx id u expected =
      rewriteSteps expected (·.getWorkflow ctx (Text.key id)) (fun _ => .looked)
        (fun w now => u.applyTo now w) Workflow.validate
        (fun w s => s.replaceWorkflow ctx w expected) .workflow >>= followSteps := by
    simp only [updateWorkflowSteps, rewriteSteps, bind_assoc]
    rfl
  rw [hsteps]
  refine Process.Does.bind (does_rewriteSteps _ _ _ _ _ _ _) ?_ ?_
  · intro ms w hw
    have hfollow : (followSteps w).Does i fun _ x => ∀ stored, x = .ok stored → stored = w := by
      refine Process.Does.bind (P := fun _ _ => True) (Process.does_atomically fun _ => trivial) ?_ ?_
      · intro _ _ _ stored hstored
        exact (Except.ok.inj hstored).symm
      · rintro _ _ - _ ⟨⟩
    refine hfollow.imp fun ms' x hx stored hstored => ?_
    obtain ⟨read, draw, write, rest, row, now, rfl, hrewrites⟩ := hw w rfl
    rw [hx stored hstored]
    exact ⟨read, draw, write, rest ++ ms', row, now, rfl, hrewrites⟩
  · rintro ms e - stored ⟨⟩

/-- The store had `row` at the reading, and at the writing `stored` took the place of `current`, the
row of the version expected. -/
structure Span.Replaces (span : Span ms i) (rows : Store → Dict α) (version : α → Nat) (id : String)
    (expected : Nat) (row current stored : α) : Prop where
  read : (rows span.read.before.store).get? id = some row
  found : (rows span.write.before.store).get? id = some current
  written : (rows span.write.after.store).get? id = some stored
  based : version current = expected
  next : version stored = expected + 1

theorem ok_of_map {β : Type} {f : α → β} (hf : Function.Injective f) {a : α} {x : Except Fault α}
    (h : .ok (f a) = f <$> x) : x = .ok a := by
  cases x with
  | error e => cases h
  | ok b => rw [hf (Except.ok.inj h)]

theorem workflow_spared {r : Runtime} (hrun : (Contract.free Allowed).Allows .empty ms r)
    (hnormal : ∀ m ∈ ms, m.before.store.Normal) {ctx : Context} {id : String} {u : Update}
    {expected : Nat} {stored : Workflow}
    (h : Rewrites (·.getWorkflow ctx (Text.key id)) (fun _ => .looked) (fun w now => u.applyTo now w)
      (fun w s => s.replaceWorkflow ctx w expected) (ms.filter (·.call == i)) stored) :
    ∃ (span : Span ms i) (row current : Workflow),
      span.Replaces (·.workflows) (·.version) (Text.key id) expected row current stored ∧
        (expected ≤ row.version → u.Spares current stored) := by
  obtain ⟨_, _, _, _, row, now, hms, -, hget, hreplace⟩ := h
  obtain ⟨span, rfl, rfl⟩ := span_of_filter hms
  obtain ⟨current, hcurrent, hversion, hstored, hafter⟩ := Store.replaceWorkflow_eq_ok hreplace
  have hrow := (Store.getWorkflow_eq_ok hget).2
  have hid : row.id = Text.key id := (hnormal _ span.read_mem).filed.workflow hrow
  have hfound : span.write.before.store.workflows.get? (Text.key id) = some current :=
    hid ▸ hcurrent
  subst hstored hversion
  refine ⟨span, row, current, ⟨hrow, hfound, ?_, rfl, rfl⟩, fun hle => ?_⟩
  · rw [hafter, Store.get?_write]
    exact if_pos hid.symm
  · have hcontinues := continues_workflows (span.allows hrun) (Text.key id)
    rw [hrow, hfound] at hcontinues
    cases hcontinues.eq_of_le hle
    exact u.spares_applyTo now row _

theorem binding_spared {r : Runtime} (hrun : (Contract.free Allowed).Allows .empty ms r)
    (hnormal : ∀ m ∈ ms, m.before.store.Normal) {ctx : Context} {id : String} {u : Binding.Update}
    {expected : Nat} {stored : Binding}
    (h : Rewrites (·.getBinding ctx (Text.trim id)) (.read (Text.trim id))
      (fun b now => u.applyTo now b) (fun b s => s.replaceBinding ctx b expected)
      (ms.filter (·.call == i)) stored) :
    ∃ (span : Span ms i) (row current : Binding),
      span.Replaces (·.bindings) (·.version) (Text.trim id) expected row current stored ∧
        (expected ≤ row.version →
          (∀ m ∈ span.between, m.event ≠ .removal (Text.trim id) (.ok ())) →
          u.Spares current stored) := by
  obtain ⟨_, _, _, _, row, now, hms, hevent, hget, hreplace⟩ := h
  obtain ⟨span, rfl, rfl⟩ := span_of_filter hms
  obtain ⟨current, hcurrent, hversion, hwrite⟩ := Store.replaceBinding_eq_ok hreplace
  obtain ⟨hstored, -, -, hafter⟩ := Store.writeBinding_eq_ok hwrite
  have hrow := (Store.getBinding_eq_ok hget).2
  have hid : row.id = Text.trim id := (hnormal _ span.read_mem).filed.binding hrow
  have hfound : span.write.before.store.bindings.get? (Text.trim id) = some current :=
    hid ▸ hcurrent
  subst hstored hversion
  refine ⟨span, row, current, ⟨hrow, hfound, ?_, rfl, rfl⟩, fun hle hkept => ?_⟩
  · rw [hafter]
    exact hid ▸ Dict.get?_set_self ..
  · -- the row is followed from the reading on, which is no removal itself
    have hkept' : ∀ m ∈ span.read :: span.between, m.event ≠ .removal (Text.trim id) (.ok ()) := by
      intro m hm
      rcases List.mem_cons.1 hm with rfl | hm
      · rw [hevent]
        exact Event.noConfusion
      · exact hkept m hm
    have hcontinues := continues_bindings (span.allows hrun) hkept'
    rw [hrow, hfound] at hcontinues
    cases hcontinues.eq_of_le hle
    exact u.spares_applyTo now ((hnormal _ span.read_mem).normal hrow) _

theorem start_call {calls : List (Context × Command)} {supply : Supply} {ctx : Context} {c : Command}
    (hi : calls[i]? = some (ctx, c)) : (start calls supply).calls[i]? = some (process ctx c) := by
  simp [start, hi]

theorem updates_spare (calls : List (Context × Command)) (supply : Supply) (turns : List Turn) :
    let ms := ((start calls supply).play turns).1
    let w := ((start calls supply).play turns).2
    (∀ i ctx id u expected stored, calls[i]? = some (ctx, .updateWorkflow id u expected) →
      w.calls[i]? = some (.done (.ok (.workflow stored))) →
      ∃ (span : Span ms i) (row current : Workflow),
        span.Replaces (·.workflows) (·.version) (Text.key id) expected row current stored ∧
          (expected ≤ row.version → u.Spares current stored)) ∧
    (∀ i ctx id u expected stored, calls[i]? = some (ctx, .updateBinding id u expected) →
      w.calls[i]? = some (.done (.ok (.binding stored))) →
      ∃ (span : Span ms i) (row current : Binding),
        span.Replaces (·.bindings) (·.version) (Text.trim id) expected row current stored ∧
          (expected ≤ row.version →
            (∀ m ∈ span.between, m.event ≠ .removal (Text.trim id) (.ok ())) →
            u.Spares current stored)) := by
  intro ms w
  have hrun : (Contract.free Allowed).Allows .empty ms w.state := by
    apply World.play_allowed (start calls supply) turns trivial
    intro p hp
    obtain ⟨c, -, rfl⟩ := List.mem_map.1 hp
    exact keeps_process c.1 c.2 _
  have hnormal : ∀ m ∈ ms, m.before.store.Normal :=
    (hrun.invariant (I := fun r => r.store.Normal) trivial Store.normal_empty
      fun _ hallowed hr => Allowed.normal hr hallowed).2
  constructor
  · intro i ctx id u expected stored hi hdone
    obtain ⟨x, hx, hanswer⟩ := World.play_does (start calls supply) turns (start_call hi)
      ((does_updateWorkflowSteps ctx id u expected).map Answer.workflow) hdone
    exact workflow_spared hrun hnormal
      (hx stored (ok_of_map (fun _ _ => Answer.workflow.inj) hanswer))
  · intro i ctx id u expected stored hi hdone
    obtain ⟨x, hx, hanswer⟩ := World.play_does (start calls supply) turns (start_call hi)
      ((does_updateBindingSteps ctx id u expected).map Answer.binding) hdone
    exact binding_spared hrun hnormal
      (hx stored (ok_of_map (fun _ _ => Answer.binding.inj) hanswer))

def publishing : Draft :=
  ⟨some "review", "First", some .active, none, ⟨"draft", [⟨"publish", "draft", "live", ""⟩]⟩⟩

def changes : List (Context × Command) :=
  [(.empty, .createWorkflow publishing),
    (.empty, .createBinding ⟨some "news", .byTrait, some "editorial", "review", 0, true, none⟩),
    (.empty, .updateBinding "news" { Binding.Update.none with scopeType := some .global } 1),
    (.empty, .updateWorkflow "review" { Update.none with name := some "Second" } 1),
    (.empty, .updateWorkflow "review" { Update.none with environment := some "live" } 2)]

def overtaking : List Turn :=
  [.call 0, .call 0, .call 0, .call 1, .call 1, .call 2, .call 2, .call 2,
    .call 4, .call 3, .call 3, .call 3, .call 3, .call 4, .call 4, .call 4]

/-- The binding loses the reference that its update did not name, and the last update of the workflow,
which names the environment only, takes the second name away. -/
theorem unnamed_fields_lost :
    let w := ((start changes ⟨⟨0, 0⟩, 0⟩).play overtaking).2
    let created := ((start changes ⟨⟨0, 0⟩, 0⟩).play (overtaking.take 5)).2
    ((∃ stored, w.calls[2]? = some (.done (.ok (.binding stored))) ∧ stored.version = 2) ∧
      (created.state.store.bindings.get? "news").map (fun b => (b.version, b.scopeRef)) =
        some (1, "editorial") ∧
      (w.state.store.bindings.get? "news").map (fun b => (b.version, b.scopeRef)) =
        some (2, "global")) ∧
    (∃ stored, w.calls[4]? = some (.done (.ok (.workflow stored))) ∧ stored.version = 3) ∧
      (w.state.store.history "review").map (fun r => (r.version, r.name)) =
        [(1, "First"), (2, "Second"), (3, "First")] := by
  refine ⟨⟨⟨_, rfl, rfl⟩, ?_, ?_⟩, ⟨_, rfl, rfl⟩, ?_⟩ <;> decide

end Runtime

end Backoffice.Workflow

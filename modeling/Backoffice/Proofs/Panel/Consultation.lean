import Backoffice.Proofs.Panel.Moves

/-!
What the authorizer is asked before a panel does anything.

A call on a panel is cut into steps, each of which shows whom it turned to: the authorizer, a hook, the
records, the policy or the engine. Main statement: reading and writing ask for a permission that is
not blank before all else, and stop where it is refused; and no spelling of an action makes the engine
fire a transition for which an action is declared, unless the permission of that action was granted
before (`authorized_first`).
-/

namespace Backoffice

namespace Panel

open Services

/-- Whom a step turned to. -/
inductive Contact where
  | consulted (permission : String) (granted : Bool)
  | hook
  | records
  | policy
  | engine (req : Workflow.TransitionRequest)
  | delegate

section Steps

variable {α : Type} (p : Panel) (ctx : Context)

def turn (c : Contact) (call : Call Services α) : Process Contact Services α :=
  .atomically call fun _ => c

def consult (permission : String) : Process Contact Services Unit :=
  if Text.blank permission then pure ()
  else
    let granted := p.authorizer ctx permission p.name
    turn (.consulted permission granted)
      (Call.ofExcept (if granted then .ok () else .error (.forbidden permission p.name)))

def listSteps (o : ListOptions) : Process Contact Services Listing := do
  p.consult ctx p.permissions.view
  turn .records (p.source.list ctx (p.listOptions ctx o))

def getSteps (id : String) : Process Contact Services Record := do
  p.consult ctx p.permissions.view
  turn .records (p.source.get ctx id)

def createSteps (record : Record) : Process Contact Services Record := do
  p.consult ctx p.permissions.create
  let record ← turn .hook (p.hooks.beforeCreate ctx record)
  let created ← turn .records (p.source.create ctx record)
  turn .hook (p.hooks.afterCreate ctx created)
  pure created

def rewriteSteps (id : String) (patch : Record) : Process Contact Services Record := do
  let patch ← turn .hook (p.hooks.beforeUpdate ctx id patch)
  let updated ← turn .records (p.source.update ctx id patch)
  turn .hook (p.hooks.afterUpdate ctx updated)
  pure updated

def updateSteps (id : String) (patch : Record) : Process Contact Services Record := do
  p.consult ctx p.permissions.edit
  p.rewriteSteps ctx id patch

def deleteSteps (id : String) : Process Contact Services Unit := do
  p.consult ctx p.permissions.delete
  turn .hook (p.hooks.beforeDelete ctx id)
  turn .records (p.source.delete ctx id)
  turn .hook (p.hooks.afterDelete ctx id)

def vetoSteps (id transition : String) (metadata : Record) : Process Contact Services Unit :=
  if p.policed then
    turn .policy (onEnforcer (Workflow.Enforcer.check
      ⟨p.name, id, transition, ctx.environment, ctx.locale, metadata⟩))
  else pure ()

def fireSteps (req : Workflow.TransitionRequest) : Process Contact Services (String × String) :=
  turn (.engine req) (Call.asks fun s => s.runtime.engine.fire ctx req)

def firingSteps (id transition : String) (metadata : Record) : Process Contact Services Record :=
  match p.lifecycle with
  | none => .done (.error (.unsupported p.name "workflow transition"))
  | some l => do
    let record ← turn .records (p.source.get ctx id)
    p.vetoSteps ctx id (Text.key transition) metadata
    let (_, target) ← fireSteps ctx (request ctx id l record (Text.key transition) metadata)
    p.rewriteSteps ctx id [(l.stateField, .str target)]

def targetSteps (a : Action) (r : ActionRequest) : Process Contact Services (Option Json) :=
  match a.target with
  | .handler run => turn .delegate (run ctx r)
  | .client => .done (.error (.unsupported p.name (a.name ++ " runs in the client")))
  | .command name =>
    if p.commands then turn .delegate (Command.Exchange.dispatchByName ctx name r.toPayload)
    else .done (.error (.notConfigured "command bus"))
  | .transition t =>
    if r.ids.isEmpty then .done (.error (.invalid "ids" "a transition needs a record id"))
    else do
      let updated ← r.ids.mapM fun id => p.firingSteps ctx id t r.payload
      pure (some (resultOf updated))

def executeSteps (a : Action) (r : ActionRequest) : Process Contact Services (Option Json) := do
  .done ctx.ensureActive
  p.consult ctx (p.permissionFor a)
  p.targetSteps ctx a r

def actionFor? (name : String) : Option Action :=
  (Action.find? p.actions name).or (if p.lifecycle.isSome then some (.transition name) else none)

def actionSteps (name : String) (r : ActionRequest) : Process Contact Services (Option Json) :=
  match p.actionFor? name with
  | some a => p.executeSteps ctx a r
  | none => .done (.error (.notFound "action" (p.name ++ "/" ++ name)))

def bulkSteps (name : String) (r : ActionRequest) : Process Contact Services (Option Json) :=
  if r.ids.isEmpty then .done (.error (.invalid "ids" "bulk actions need at least one id"))
  else match Action.find? p.bulkActions name with
    | some a => p.executeSteps ctx a r
    | none => .done (.error (.notFound "bulk action" (p.name ++ "/" ++ name)))

def Deed.steps : Deed → Process Contact Services Unit
  | list o => do let _ ← p.listSteps ctx o
  | get id => do let _ ← p.getSteps ctx id
  | create record => do let _ ← p.createSteps ctx record
  | update id patch => do let _ ← p.updateSteps ctx id patch
  | delete id => p.deleteSteps ctx id
  | transition id name metadata => do let _ ← p.firingSteps ctx id name metadata
  | action name r => do let _ ← p.actionSteps ctx name r
  | bulkAction name r => do let _ ← p.bulkSteps ctx name r

end Steps

section Run

variable {α : Type} (p : Panel) (ctx : Context)

@[simp] theorem run_turn (c : Contact) (call : Call Services α) : (turn c call).run = call := rfl

@[simp] theorem run_consult (permission : String) :
    (p.consult ctx permission).run = Call.ofExcept (p.authorize ctx permission) := by
  unfold consult authorize
  cases Text.blank permission <;> cases p.authorizer ctx permission p.name <;> rfl

@[simp] theorem run_rewriteSteps (id : String) (patch : Record) :
    (p.rewriteSteps ctx id patch).run = p.write ctx id patch := by
  simp only [rewriteSteps, write, Process.run_bind, run_turn, Process.run_pure]

@[simp] theorem run_firingSteps (id transition : String) (metadata : Record) :
    (p.firingSteps ctx id transition metadata).run =
      p.transitionRecord ctx id transition metadata := by
  unfold firingSteps transitionRecord vetoSteps fireSteps
  cases p.lifecycle with
  | none => rfl
  | some l =>
    cases p.policed with
    | true =>
      simp only [if_true, Process.run_bind, run_turn, run_rewriteSteps]
      rfl
    | false =>
      simp only [Bool.false_eq_true, if_false, Process.run_bind, run_turn, run_rewriteSteps, pure_bind]
      rfl

@[simp] theorem run_executeSteps (a : Action) (r : ActionRequest) :
    (p.executeSteps ctx a r).run = p.execute ctx a r := by
  unfold executeSteps execute targetSteps
  simp only [Process.run_bind, run_consult, Process.run_done]
  cases a.target with
  | handler run => rfl
  | client => rfl
  | command name => cases p.commands <;> rfl
  | transition t =>
    cases r.ids.isEmpty with
    | true => rfl
    | false =>
      simp only [Bool.false_eq_true, if_false, Process.run_bind, Process.run_mapM, run_firingSteps,
        Process.run_pure]

@[simp] theorem run_actionSteps (name : String) (r : ActionRequest) :
    (p.actionSteps ctx name r).run = p.runAction ctx name r := by
  unfold actionSteps runAction actionFor?
  cases Action.find? p.actions name with
  | some a => exact p.run_executeSteps ctx a r
  | none =>
    cases p.lifecycle.isSome with
    | true => exact p.run_executeSteps ctx (.transition name) r
    | false => rfl

@[simp] theorem run_bulkSteps (name : String) (r : ActionRequest) :
    (p.bulkSteps ctx name r).run = p.runBulkAction ctx name r := by
  unfold bulkSteps runBulkAction
  cases r.ids.isEmpty with
  | true => rfl
  | false =>
    cases Action.find? p.bulkActions name with
    | some a => exact p.run_executeSteps ctx a r
    | none => rfl

theorem run_steps (d : Deed) : (d.steps p ctx).run = d.call p ctx := by
  cases d <;>
    simp only [Deed.steps, Deed.call, listSteps, Panel.list, getSteps, Panel.get, createSteps,
      Panel.create, updateSteps, Panel.update, deleteSteps, Panel.delete, Process.run_bind,
      run_consult, run_turn, run_rewriteSteps, run_firingSteps, run_actionSteps, run_bulkSteps,
      Process.run_pure]

end Run

def Deed.permission? (p : Panel) : Deed → Option String
  | list _ | get _ => some p.permissions.view
  | create _ => some p.permissions.create
  | update _ _ => some p.permissions.edit
  | delete _ => some p.permissions.delete
  | _ => none

/-- Whom a call turned to that asks for a permission before all else, and its answer once it is done. -/
inductive Consults (p : Panel) (ctx : Context) (permission : String) :
    List Contact → Option (Except Fault Unit) → Prop
  | unasked : Consults p ctx permission [] none
  | refused : p.authorizer ctx permission p.name = false →
      Consults p ctx permission [.consulted permission false]
        (some (.error (.forbidden permission p.name)))
  | granted {rest x} : p.authorizer ctx permission p.name = true →
      Consults p ctx permission (.consulted permission true :: rest) x

variable {p : Panel} {ctx : Context} {permission : String} {i : Nat} {α β : Type}

theorem steps_eq_consult (ctx : Context) {d : Deed} (h : d.permission? p = some permission) :
    ∃ rest, d.steps p ctx = p.consult ctx permission >>= rest := by
  cases d <;> cases h
  case delete => exact ⟨_, rfl⟩
  all_goals exact ⟨_, bind_assoc _ _ _⟩

theorem consults_consult (hblank : Text.blank permission = false)
    (rest : Unit → Process Contact Services Unit) :
    (p.consult ctx permission >>= rest).Proceeds i fun ms x =>
      Consults p ctx permission (ms.map (·.event)) x := by
  unfold consult
  rw [if_neg (Bool.eq_false_iff.1 hblank)]
  refine ⟨.unasked, fun s => ?_⟩
  cases hgranted : p.authorizer ctx permission p.name with
  | true => exact Process.proceeds_of_forall _ fun ms x => .granted hgranted
  | false => exact .refused hgranted

theorem call_of_refused {d : Deed} (h : d.permission? p = some permission)
    (hblank : Text.blank permission = false) (hrefused : p.authorizer ctx permission p.name = false)
    (s : Supply × Services) : d.call p ctx s = (.error (.forbidden permission p.name), s) := by
  obtain ⟨rest, hrest⟩ := steps_eq_consult ctx h
  rw [← run_steps, hrest, Process.run_bind, run_consult, authorize, hblank, hrefused]
  rfl

def Turns (Q : Contact → Prop) (q : Process Contact Services α) : Prop :=
  ∀ i, q.Proceeds i fun ms _ => ∀ m ∈ ms, Q m.event

section Turns

variable {Q : Contact → Prop}

theorem turns_done (r : Except Fault α) : Turns Q (.done r) := fun _ => by
  simp [Process.Proceeds]

theorem turns_pure (a : α) : Turns Q (pure a) := turns_done (.ok a)

theorem turns_turn {c : Contact} (h : Q c) (call : Call Services α) : Turns Q (turn c call) :=
  fun _ => Process.proceeds_atomically (by simp) fun _ => by simpa using h

theorem Turns.bind {q : Process Contact Services α} {f : α → Process Contact Services β}
    (hq : Turns Q q) (hf : ∀ a, Turns Q (f a)) : Turns Q (q >>= f) := fun i =>
  (hq i).bind (fun _ a hms => (hf a i).imp fun _ _ hms' => List.forall_mem_append.2 ⟨hms, hms'⟩)
    (fun _ _ => id) fun _ => id

theorem turns_mapM {f : β → Process Contact Services α} (hf : ∀ b, Turns Q (f b)) (bs : List β) :
    Turns Q (bs.mapM f) := by
  induction bs with
  | nil => exact turns_pure []
  | cons b bs ih =>
    rw [List.mapM_cons]
    exact (hf b).bind fun a => ih.bind fun as => turns_pure (a :: as)

end Turns

def Contact.Of (name : String) (c : Contact) : Prop :=
  ∀ req, c = .engine req → req.transition = Text.key name

theorem turns_rewriteSteps (p : Panel) (ctx : Context) (id : String) (patch : Record)
    (name : String) : Turns (Contact.Of name) (p.rewriteSteps ctx id patch) := by
  refine (turns_turn (by rintro _ ⟨⟩) _).bind fun patch => ?_
  refine (turns_turn (by rintro _ ⟨⟩) _).bind fun updated => ?_
  exact (turns_turn (by rintro _ ⟨⟩) _).bind fun _ => turns_pure updated

theorem turns_firingSteps (p : Panel) (ctx : Context) (id name : String) (metadata : Record) :
    Turns (Contact.Of name) (p.firingSteps ctx id name metadata) := by
  unfold firingSteps
  split
  · exact turns_done _
  · refine (turns_turn (by rintro _ ⟨⟩) _).bind fun record => ?_
    refine Turns.bind ?_ fun _ => ?_
    · unfold vetoSteps
      split
      · exact turns_turn (by rintro _ ⟨⟩) _
      · exact turns_pure ()
    · refine (turns_turn ?_ _).bind fun _ => turns_rewriteSteps p ctx id _ name
      rintro _ ⟨⟩
      rfl

def Contact.Targets (a : Action) (c : Contact) : Prop :=
  ∀ req, c = .engine req →
    ∃ name, a.target = .transition name ∧ req.transition = Text.key name

theorem turns_targetSteps (p : Panel) (ctx : Context) (a : Action) (r : ActionRequest) :
    Turns (Contact.Targets a) (p.targetSteps ctx a r) := by
  unfold targetSteps
  split
  · exact turns_turn (by rintro _ ⟨⟩) _
  · exact turns_done _
  · split
    · exact turns_turn (by rintro _ ⟨⟩) _
    · exact turns_done _
  · rename_i name htarget
    split
    · exact turns_done _
    · refine Turns.bind (turns_mapM (fun id i => ?_) r.ids) fun _ => turns_pure _
      refine (turns_firingSteps p ctx id name r.payload i).imp fun ms _ hms m hm req hreq => ?_
      exact ⟨name, htarget, hms m hm req hreq⟩

def Guarded (p : Panel) (ctx : Context) (a : Action) (ms : List (Moment Contact Services)) : Prop :=
  ∀ earlier m later, ms = earlier ++ m :: later → ∀ req, m.event = .engine req →
    (∃ name, a.target = .transition name ∧ req.transition = Text.key name) ∧
    p.authorize ctx (p.permissionFor a) = .ok () ∧
    (Text.blank (p.permissionFor a) = false →
      .consulted (p.permissionFor a) true ∈ earlier.map (·.event))

section Guarded

variable {a : Action} {ms : List (Moment Contact Services)} {m : Moment Contact Services}

theorem guarded_nil : Guarded p ctx a [] := by
  intro earlier m later h
  simp at h

theorem guarded_of_blank (hblank : Text.blank (p.permissionFor a) = true)
    (hms : ∀ m ∈ ms, m.event.Targets a) : Guarded p ctx a ms := by
  rintro earlier m later rfl req hreq
  refine ⟨hms m (by simp) req hreq, ?_, by simp [hblank]⟩
  rw [authorize, hblank]
  rfl

theorem guarded_cons {granted : Bool} (hm : m.event = .consulted (p.permissionFor a) granted)
    (hgranted : ms ≠ [] → granted = true ∧ p.authorize ctx (p.permissionFor a) = .ok ())
    (hms : ∀ m ∈ ms, m.event.Targets a) : Guarded p ctx a (m :: ms) := by
  intro earlier m' later heq req hreq
  cases earlier with
  | nil =>
    obtain ⟨rfl, -⟩ := List.cons.inj heq
    rw [hm] at hreq
    cases hreq
  | cons first earlier =>
    obtain ⟨rfl, rfl⟩ := List.cons.inj heq
    obtain ⟨rfl, hauthorized⟩ := hgranted (by simp)
    exact ⟨hms m' (by simp) req hreq, hauthorized, fun _ => by simp [hm]⟩

theorem proceeds_executeSteps (p : Panel) (ctx : Context) (a : Action) (r : ActionRequest) :
    (p.executeSteps ctx a r).Proceeds i fun ms _ => Guarded p ctx a ms := by
  unfold executeSteps
  cases ctx.ensureActive with
  | error e => exact guarded_nil
  | ok =>
    change (p.consult ctx (p.permissionFor a) >>= fun _ => p.targetSteps ctx a r).Proceeds i _
    have htarget := turns_targetSteps p ctx a r i
    unfold consult
    cases hblank : Text.blank (p.permissionFor a) with
    | true => exact htarget.imp fun ms _ hms => guarded_of_blank hblank hms
    | false =>
      refine ⟨guarded_nil, fun s => ?_⟩
      cases hgranted : p.authorizer ctx (p.permissionFor a) p.name with
      | true =>
        have hauthorized : p.authorize ctx (p.permissionFor a) = .ok () := by
          rw [authorize, hgranted, Bool.or_true]
          rfl
        exact htarget.imp fun ms _ hms => guarded_cons rfl (fun _ => ⟨rfl, hauthorized⟩) hms
      | false => exact guarded_cons rfl (by simp) (by simp)

end Guarded

theorem proceeds_actionSteps (p : Panel) (ctx : Context) (name : String) (r : ActionRequest) :
    (p.actionSteps ctx name r).Proceeds i fun ms _ =>
      ms = [] ∨ ∃ a, p.actionFor? name = some a ∧ Guarded p ctx a ms := by
  unfold actionSteps
  split
  · rename_i a ha
    exact (proceeds_executeSteps p ctx a r).imp fun ms _ hms => .inr ⟨a, ha, hms⟩
  · exact .inl rfl

theorem key_of_actionFor? {name : String} {c : Action} (h : p.actionFor? name = some c) :
    Text.key c.name = Text.key name := by
  rcases Option.or_eq_some_iff.1 h with hfind | ⟨-, h⟩
  · exact beq_iff_eq.1 (List.find?_some (p := fun a : Action => Text.key a.name == Text.key name) hfind)
  · split at h
    · cases h
      rfl
    · cases h

theorem actionFor?_of_mem (hdistinct : (p.actions.map (Text.key ·.name)).Nodup) {a : Action}
    (ha : a ∈ p.actions) {name : String} (hkey : Text.key a.name = Text.key name) :
    p.actionFor? name = some a := by
  have hfind : Action.find? p.actions name = some a := by
    have h := Action.find?_of_mem hdistinct ha
    rwa [Action.find?, hkey] at h
  rw [actionFor?, hfind]
  rfl

/-- The transition that the engine fires by a step, as it is defined at that moment. -/
def fired? (m : Moment Contact Services) : Option Workflow.Transition :=
  match m.event with
  | .engine req => (m.before.runtime.engine.definition? req.entityType).bind fun d =>
    d.find? (d.stateOf req.currentState) req.transition
  | _ => none

theorem key_of_fired {m : Moment Contact Services} {t : Workflow.Transition}
    (h : fired? m = some t) :
    ∃ req, m.event = .engine req ∧ Text.key t.name = Text.key req.transition := by
  unfold fired? at h
  split at h
  · rename_i req hreq
    obtain ⟨d, -, hfind⟩ := Option.bind_eq_some_iff.1 h
    rw [Workflow.Definition.find?_eq] at hfind
    have hmeans : d.means req.currentState req.transition t = true := List.find?_some hfind
    have hname := Text.key_eq_of_sameIgnoringCase (Bool.and_eq_true_iff.1 hmeans).2
    exact ⟨req, hreq, by rw [hname, Text.key, Text.trim_trim, Text.key]⟩
  · cases h

theorem authorized_of_fired (hdistinct : (p.actions.map (Text.key ·.name)).Nodup)
    (hown : ∀ c ∈ p.actions, ∀ name, c.target = .transition name → name = c.name) {a : Action}
    (ha : a ∈ p.actions) {t : Workflow.Transition} (hkey : Text.key a.name = Text.key t.name)
    {name : String} {c : Action} (hc : p.actionFor? name = some c)
    {earlier later : List (Moment Contact Services)} {m : Moment Contact Services}
    (hguarded : Guarded p ctx c (earlier ++ m :: later)) (hfired : fired? m = some t) :
    p.authorize ctx (p.permissionFor a) = .ok () ∧
      (Text.blank (p.permissionFor a) = false →
        .consulted (p.permissionFor a) true ∈ earlier.map (·.event)) := by
  obtain ⟨req, hreq, hname⟩ := key_of_fired hfired
  obtain ⟨⟨target, htarget, hasked⟩, hauthorized⟩ := hguarded earlier m later rfl req hreq
  -- the transition of an action that is not declared has the name it was called by
  have htargetname : target = c.name := by
    rcases Option.or_eq_some_iff.1 hc with hfind | ⟨-, h⟩
    · exact hown c (List.mem_of_find?_eq_some hfind) target htarget
    · split at h
      · cases h
        cases htarget
        rfl
      · cases h
  have hcalled : Text.key a.name = Text.key name := by
    rw [hkey, hname, hasked, Text.key_key, htargetname, key_of_actionFor? hc]
  obtain rfl : a = c := Option.some.inj ((actionFor?_of_mem hdistinct ha hcalled).symm.trans hc)
  exact hauthorized

/-- A panel that was built asks for a permission that is not blank before it reads or writes, and where
it is refused does nothing and says so. And where an action is declared for a transition, with a
permission of its own, no call of an action makes the engine fire the transition unless the permission
was granted before. -/
theorem authorized_first {b : Builder} (hp : b.build = .ok p) (ctx : Context) :
    (∀ d : Deed, (d.steps p ctx).run = d.call p ctx) ∧
    (∀ d permission, Deed.permission? p d = some permission →
      Text.blank permission = false ∧
      (∀ (w : World Contact Services Unit) turns i, w.calls[i]? = some (d.steps p ctx) →
        Consults p ctx permission (eventsOf i (w.play turns).1)
          ((w.play turns).2.calls[i]?.bind (·.answer?))) ∧
      (p.authorizer ctx permission p.name = false →
        ∀ s, d.call p ctx s = (.error (.forbidden permission p.name), s))) ∧
    ∀ a ∈ p.actions, ∀ t permission, Text.key a.name = Text.key t.name →
      a.permission = some permission →
      (∀ c ∈ p.actions, ∀ name, c.target = .transition name → name = c.name) →
      ∀ name r (w : World Contact Services Unit) turns i,
        w.calls[i]? = some ((Deed.action name r).steps p ctx) →
        ∀ earlier m later, (w.play turns).1.filter (·.call == i) = earlier ++ m :: later →
          fired? m = some t → p.authorize ctx permission = .ok () ∧
            (Text.blank permission = false →
              .consulted permission true ∈ earlier.map (·.event)) := by
  obtain ⟨hstated, -⟩ := Builder.build_eq_ok hp
  refine ⟨run_steps p ctx, fun d permission hd => ?_, ?_⟩
  · have hblank : Text.blank permission = false := by
      cases d <;> cases hd
      case create => exact hstated.create
      case update => exact hstated.edit
      case delete => exact hstated.delete
      all_goals exact hstated.view
    refine ⟨hblank, fun w turns i hi => ?_, fun hrefused s => call_of_refused hd hblank hrefused s⟩
    obtain ⟨rest, hrest⟩ := steps_eq_consult ctx hd
    exact w.play_proceeds turns (hi.trans (congrArg some hrest)) (consults_consult hblank rest)
  · intro a ha t permission hkey hpermission hown name r w turns i hi earlier m later hms hfired
    have hsteps : ((Deed.action name r).steps p ctx).Proceeds i fun ms _ =>
        ms = [] ∨ ∃ c, p.actionFor? name = some c ∧ Guarded p ctx c ms :=
      (proceeds_actionSteps p ctx name r).bind
        (fun ms _ hms => Process.proceeds_pure.2 (by simpa using hms)) (fun _ _ => id) fun _ => id
    rcases w.play_proceeds turns hi hsteps with hnone | ⟨c, hc, hguarded⟩
    · rw [hms] at hnone
      simp at hnone
    · rw [hms] at hguarded
      have hauthorized :=
        authorized_of_fired (Builder.nodup_of_build hp) hown ha hkey hc hguarded hfired
      rwa [permissionFor, hpermission] at hauthorized

def publishing : Builder :=
  { Builder.new "notes" with
    source := some (.table "notes")
    lifecycle := some ⟨"notes", "status"⟩
    actions := [{ Action.transition "Publish" with permission := some "notes.publish" }]
    authorizer := .granting ["notes.publish"] }

def published : Panel :=
  { notes "Publish" with
    actions := [{ Action.transition "Publish" with permission := some "notes.publish" }]
    authorizer := .granting ["notes.publish"] }

theorem build_publishing : publishing.build = .ok published := by
  have hname : Text.key "notes" = "notes" := by decide
  have hbase : "admin." ++ "notes" = "admin.notes" := by decide
  unfold Builder.build
  simp only [publishing, Builder.new, hname, hbase]
  rfl

def publication : World Contact Services Unit :=
  ⟨[(Deed.action " PUBLISH " ⟨["1"], []⟩).steps published .empty,
    (Deed.create note).steps published .empty], ⟨⟨0, 0⟩, 0⟩, stocked "Publish"⟩

def oneByOne : List Turn := List.replicate 6 (.call 0) ++ List.replicate 6 (.call 1)

theorem authorized_first_publish :
    publishing.build = .ok published ∧
      Consults published .empty "admin.notes.create" (eventsOf 1 (publication.play oneByOne).1)
        ((publication.play oneByOne).2.calls[1]?.bind (·.answer?)) ∧
      published.authorizer .empty "admin.notes.create" "notes" = false ∧
      ∃ earlier m later,
        (publication.play oneByOne).1.filter (·.call == 0) = earlier ++ m :: later ∧
        fired? m = some ⟨"Publish", "draft", "edited", ""⟩ ∧
        .consulted "notes.publish" true ∈ earlier.map (·.event) := by
  obtain ⟨-, hdeeds, hactions⟩ := authorized_first build_publishing .empty
  have hfires : ((publication.play oneByOne).1.filter (·.call == 0)).any
      (fired? · == some ⟨"Publish", "draft", "edited", ""⟩) = true := by decide
  obtain ⟨m, hm, hfired⟩ := List.any_eq_true.1 hfires
  obtain ⟨earlier, later, hms⟩ := List.append_of_mem hm
  have hown : ∀ c ∈ published.actions, ∀ name, c.target = .transition name → name = c.name := by
    intro c hc name htarget
    rw [List.mem_singleton.1 hc] at htarget ⊢
    cases htarget
    rfl
  have hfirst := hactions _ (List.mem_singleton_self _) ⟨"Publish", "draft", "edited", ""⟩
    "notes.publish" rfl rfl hown " PUBLISH " ⟨["1"], []⟩ publication oneByOne 0 rfl earlier m later hms
    (beq_iff_eq.1 hfired)
  exact ⟨build_publishing, (hdeeds (.create note) _ rfl).2.1 publication oneByOne 1 rfl,
    by decide, earlier, m, later, hms, beq_iff_eq.1 hfired, hfirst.2 (by decide)⟩

end Panel

end Backoffice

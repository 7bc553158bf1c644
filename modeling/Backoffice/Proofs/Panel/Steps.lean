import Backoffice.Proofs.Panel.Isolation
import Backoffice.Proofs.Process

/-!
The calls of the factory cut into steps.

A reservation, what puts it back, each operation on registry or menus, the check of the schema and
the making of the panel are steps of their own. Without interruption the steps are the calls
(`Request.run_steps`).
-/

namespace Backoffice.Panel.Factory

/-- What a step does to the slugs: it asks for one, it sets one back, or it leaves them alone. -/
inductive SlugEvent where
  | reserve (environment typeId slug : String)
  | release (environment typeId : String) (previous : Option String)
  | aside
  deriving DecidableEq

abbrev Steps (α : Type) := Process SlugEvent Site α

def apart {α : Type} (c : Call Site α) : Steps α := .atomically c fun _ => .aside

@[simp] theorem run_apart {α : Type} (c : Call Site α) : (apart c).run = c := rfl

def reserving (environment typeId slug : String) : Steps (Option String) :=
  .atomically (Site.reserve environment typeId slug) fun _ => .reserve environment typeId slug

def releasing (environment typeId : String) (previous : Option String) : Steps Unit :=
  .atomically (Site.release environment typeId previous) fun _ =>
    .release environment typeId previous

@[simp] theorem run_reserving (environment typeId slug : String) :
    (reserving environment typeId slug).run = Site.reserve environment typeId slug := rfl

@[simp] theorem run_releasing (environment typeId : String) (previous : Option String) :
    (releasing environment typeId previous).run = Site.release environment typeId previous := rfl

def putting (g : Menu.Service → Except Fault (Menu.Item × Menu.Service)) : Steps Menu.Item :=
  apart (Call.atomic fun s => do
    let (i, menus) ← g s.menus
    .ok (i, { s with menus }))

@[simp] theorem run_putting (g : Menu.Service → Except Fault (Menu.Item × Menu.Service)) :
    (putting g).run = Call.atomic (fun s : Site => do
      let (i, menus) ← g s.menus
      .ok (i, { s with menus })) := rfl

def failing {α : Type} (e : Fault) : Steps α := .done (.error e)

@[simp] theorem run_failing {α : Type} (e : Fault) : (failing e : Steps α).run = throw e := rfl

section

variable (f : Factory) (runtime : Workflow.Runtime) (ctx : Context) (c : ContentType)

def unregisterSteps (name : String) : Steps Bool := do
  let found ← apart do
    let r ← Call.reads (·.registry)
    Site.onRegistry fun r => { r with panels := r.panels.erase name }
    pure (r.contains name)
  apart (Site.onRegistry fun r => { r with adapters := r.adapters.erase name })
  let (attachment, drops) ← apart do
    let r ← Call.reads (·.registry)
    Site.onRegistry fun r => { r with attachments := r.attachments.erase name }
    pure (r.attachments.get? name, r.dropsItems)
  match attachment with
  | some a => if drops then apart (Site.onMenus (·.dropItem ctx a.menuCode a.itemId))
  | none => pure ()
  pure found

def ensureMenuSteps (code : String) : Steps Unit := do
  match ← (apart (Call.asks fun s => s.menus.getMenu ctx code)).attempt with
  | .ok _ => pure ()
  | .error e =>
    if e.isNotFound then do
      match ← (apart (Site.onMenus fun m => do .ok (← m.createMenu ctx code).2)).attempt with
      | .ok () => pure ()
      | .error e => if e.isAlreadyExists then pure () else failing e
    else failing e

def linkMenuSteps (p : Panel) (slug : String) (position : Option Int) : Steps String := do
  ensureMenuSteps ctx f.menuCode
  let item := f.menuItem ctx p c slug position
  let existing ← apart (Call.asks fun s => s.menus.listItems ctx f.menuCode)
  let stale := existing.filter (isStale item)
  stale.forM fun i => apart (Site.onMenus (·.dropItem ctx f.menuCode i.id))
  let current := existing.find? (·.id == item.id)
  let item := { item with position := item.position.or ((current.bind (·.position)).or
    (stale.findSome? (·.position))) }
  let stored ← match current with
    | some _ => putting (·.updateItem ctx item)
    | none => do
      match ← (putting (·.addItem ctx item)).attempt with
      | .ok i => pure i
      | .error e => if e.isAlreadyExists then putting (·.updateItem ctx item) else failing e
  pure stored.id

def linkSteps (environment slug : String) (position : Option Int) : Steps Panel := do
  if f.validates then apart (Call.ofExcept c.checkSchema)
  let p ← apart (Call.ofExcept (f.buildPanel runtime ctx c environment slug))
  apart (Site.onRegistry (·.put p))
  apart (Site.onRegistry (·.adapt p.name ⟨p, titleField c p⟩))
  if f.hasMenus then
    let itemId ← f.linkMenuSteps ctx c p slug position
    apart (Site.onRegistry (·.attach p.name ⟨f.menuCode, itemId⟩))
  pure p

def detachSteps (name : String) : Steps Unit := do
  match ← apart (Call.reads (·.registry.attachments.get? name)) with
  | some a => if f.hasMenus then apart (Site.onMenus (·.dropItem ctx a.menuCode a.itemId))
  | none => pure ()
  let _ ← unregisterSteps ctx name

def cleanupSteps (environment : String) : Steps Unit := do
  let recorded ← .atomically (do
    let recorded ← Call.reads (·.slug? environment c.id)
    Site.release environment c.id none
    pure recorded) fun _ => .release environment c.id none
  let slug := recorded.getD c.panelSlug
  if slug != "" then f.detachSteps ctx (panelName slug environment)

def createSteps (position : Option Int) : Steps (Option Panel) := do
  apart (Call.ofExcept ctx.ensureActive)
  let environment := environmentFor ctx c
  if c.status.exposesPanel then
    let slug := c.panelSlug
    if slug == "" then failing (.invalid "slug" "content type slug is required")
    let previous ← reserving environment c.id slug
    match ← (f.linkSteps runtime ctx c environment slug position).attempt with
    | .ok p => pure (some p)
    | .error e => do
      releasing environment c.id previous
      failing e
  else
    if f.validates then apart (Call.ofExcept c.checkSchema)
    f.cleanupSteps ctx c environment
    pure none

def positionSteps (name : String) : Steps (Option Int) := do
  if f.hasMenus then
    match ← apart (Call.reads (·.registry.attachments.get? name)) with
    | some a => apart (Call.reads fun s =>
        match s.menus.getMenu ctx a.menuCode with
        | .ok m => (m.item? a.itemId).bind (·.position)
        | .error _ => none)
    | none => pure none
  else pure none

def leaveSteps (environment old : String) (exposes : Bool) : Steps (Option Int) := do
  if exposes then
    let _ ← reserving environment c.id c.panelSlug
  let name := panelName old environment
  let position ← f.positionSteps ctx name
  match ← (f.detachSteps ctx name).attempt with
  | .ok () => do
    if !exposes then releasing environment c.id none
    pure position
  | .error e => do
    if exposes then releasing environment c.id (some old)
    failing e

def refreshSteps : Steps (Option Panel) := do
  apart (Call.ofExcept ctx.ensureActive)
  let environment := environmentFor ctx c
  let slug := c.panelSlug
  let left := (← apart (Call.reads (·.slug? environment c.id))).filter (· != slug)
  match left with
  | none => f.createSteps runtime ctx c none
  | some old => do
    let exposes := c.status.exposesPanel && slug != ""
    let position ← f.leaveSteps ctx c environment old exposes
    match ← (f.createSteps runtime ctx c position).attempt with
    | .ok p => pure p
    | .error e => do
      if exposes then releasing environment c.id none
      failing e

def removeSteps : Steps Unit := do
  apart (Call.ofExcept ctx.ensureActive)
  f.cleanupSteps ctx c (environmentFor ctx c)

def Request.steps : Request → Steps Unit
  | create c => do let _ ← f.createSteps runtime ctx c none
  | refresh c => do let _ ← f.refreshSteps runtime ctx c
  | remove c => f.removeSteps ctx c

theorem run_unregisterSteps (name : String) :
    (unregisterSteps ctx name).run = Site.unregister ctx name := by
  funext ⟨supply, s⟩
  simp only [unregisterSteps, Site.unregister, Site.onRegistry, Process.run_bind, run_apart,
    Call.bind_apply, Call.reads_apply, Call.change_apply, Call.pure_apply]
  cases s.registry.attachments.get? name with
  | none => rfl
  | some a =>
    simp only [Process.run_ite, Process.run_bind, run_apart, Process.run_pure]
    rfl

theorem run_ensureMenuSteps (code : String) :
    (ensureMenuSteps ctx code).run = Site.onMenus (·.ensureMenu ctx code) := by
  funext ⟨supply, s⟩
  simp only [ensureMenuSteps, Site.onMenus, Process.run_bind, Process.run_attempt, run_apart,
    Call.bind_apply, Call.attempt, Call.asks_apply, Call.update_apply, Menu.Service.ensureMenu]
  cases s.menus.getMenu ctx code with
  | ok m => rfl
  | error e =>
    cases hfound : e.isNotFound with
    | false => simp [hfound, bind, Except.bind]; rfl
    | true =>
      simp only [hfound, if_true, Process.run_bind, Process.run_attempt, run_apart,
        Call.bind_apply, Call.attempt, Call.update_apply]
      cases s.menus.createMenu ctx code with
      | ok made => rfl
      | error e =>
        cases hthere : e.isAlreadyExists with
        | true => simp [hthere, bind, Except.bind]
        | false => simp [hthere, bind, Except.bind]; rfl

theorem run_linkMenuSteps (p : Panel) (slug : String) (position : Option Int) :
    (f.linkMenuSteps ctx c p slug position).run = f.linkMenu ctx p c slug position := by
  simp only [linkMenuSteps, linkMenu, Process.run_bind, run_ensureMenuSteps, run_apart,
    Process.run_listForM]
  refine bind_congr fun _ => bind_congr fun existing => bind_congr fun _ => ?_
  cases existing.find? (·.id == (f.menuItem ctx p c slug position).id) with
  | some current => simp only [Process.run_bind, run_putting, Process.run_pure]
  | none =>
    simp only [Process.run_bind, Process.run_attempt, run_putting]
    refine bind_congr fun r => ?_
    cases r with
    | ok i => simp only [Process.run_bind, Process.run_pure]
    | error e =>
      simp only [Process.run_ite, Process.run_bind, run_putting, run_failing, Process.run_pure]

theorem run_detachSteps (name : String) :
    (f.detachSteps ctx name).run = f.detach ctx name := by
  funext ⟨supply, s⟩
  simp only [detachSteps, detach, Process.run_bind, run_apart, Call.bind_apply, Call.reads_apply,
    Call.state_apply]
  cases s.registry.attachments.get? name with
  | none =>
    simp only [Process.run_bind, run_unregisterSteps]
    rfl
  | some a =>
    simp only [Process.run_ite, Process.run_bind, run_apart, run_unregisterSteps]
    rfl

theorem run_linkSteps (environment slug : String) (position : Option Int) :
    (f.linkSteps runtime ctx c environment slug position).run =
      f.link runtime ctx c environment slug position := by
  simp only [linkSteps, link, Process.run_bind, Process.run_ite, run_apart, run_linkMenuSteps,
    Process.run_pure]

theorem run_cleanupSteps (environment : String) :
    (f.cleanupSteps ctx c environment).run = f.cleanup ctx c environment := by
  simp only [cleanupSteps, cleanup, Process.run_bind, Process.run_ite, run_detachSteps,
    Process.run_atomically, Process.run_pure, bind_assoc, pure_bind]

theorem run_createSteps (position : Option Int) :
    (f.createSteps runtime ctx c position).run = f.createAt runtime ctx c position := by
  simp only [createSteps, createAt, Process.run_bind, Process.run_ite, run_apart, run_reserving,
    run_failing, run_linkSteps, Process.run_attempt, run_cleanupSteps, Process.run_pure]
  refine bind_congr fun _ => ?_
  split
  · split
    · rfl
    · refine bind_congr fun previous => bind_congr fun r => ?_
      cases r with
      | ok p => rfl
      | error e => rfl
  · rfl

theorem run_positionSteps (name : String) :
    (f.positionSteps ctx name).run = Call.reads fun s => f.position? s ctx name := by
  funext ⟨supply, s⟩
  simp only [positionSteps, position?, Process.run_ite, Process.run_bind, run_apart]
  split
  · rw [Call.bind_apply, Call.reads_apply, Call.reads_apply]
    cases s.registry.attachments.get? name with
    | none => rfl
    | some a => rfl
  · rfl

theorem run_leaveSteps (environment old : String) (exposes : Bool) :
    (f.leaveSteps ctx c environment old exposes).run = f.leave ctx c environment old exposes := by
  cases exposes with
  | true =>
    simp only [leaveSteps, leave, Process.run_bind, run_reserving, run_positionSteps,
      run_detachSteps, Process.run_attempt, if_true]
    refine bind_congr fun _ => bind_congr fun position => bind_congr fun r => ?_
    cases r with
    | ok _ => rfl
    | error e => rfl
  | false =>
    simp only [leaveSteps, leave, Process.run_bind, run_positionSteps, run_detachSteps,
      Process.run_attempt, Bool.false_eq_true, if_false]
    refine bind_congr fun position => bind_congr fun r => ?_
    cases r with
    | ok _ => rfl
    | error e => rfl

theorem run_refreshSteps :
    (f.refreshSteps runtime ctx c).run = f.refresh runtime ctx c := by
  simp only [refreshSteps, refresh, Process.run_bind, run_apart]
  refine bind_congr fun _ => bind_congr fun recorded => ?_
  cases recorded.filter (· != c.panelSlug) with
  | none => exact run_createSteps f runtime ctx c none
  | some old =>
    simp only [Process.run_bind, Process.run_attempt, run_leaveSteps, run_createSteps]
    refine bind_congr fun position => bind_congr fun r => ?_
    cases r with
    | ok p => rfl
    | error e =>
      simp only [Process.run_ite, Process.run_bind, run_releasing, run_failing]

theorem run_removeSteps : (f.removeSteps ctx c).run = f.remove ctx c := by
  simp only [removeSteps, remove, Process.run_bind, run_apart, run_cleanupSteps]

theorem Request.run_steps (q : Request) : (q.steps f runtime ctx).run = q.call f runtime ctx := by
  cases q with
  | create c =>
    simp only [steps, call, Factory.create, Process.run_bind, run_createSteps, Process.run_pure]
  | refresh c => simp only [steps, call, Process.run_bind, run_refreshSteps, Process.run_pure]
  | remove c => exact run_removeSteps f ctx c

end

end Backoffice.Panel.Factory

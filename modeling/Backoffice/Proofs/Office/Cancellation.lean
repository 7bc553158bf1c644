import Backoffice.Office.Load
import Backoffice.Proofs.Menu.Merging
import Backoffice.Proofs.Panel.Mirror
import Backoffice.Proofs.Panel.Operations
import Backoffice.Proofs.Workflow.Steps

namespace Backoffice

open Call (Ensures Leaves Fails ensures_change ensures_pure ensures_put ensures_reads ensures_state
  ensures_throw fails_asks fails_atomic fails_ofExcept fails_throw fails_update quiet_asks
  quiet_fresh quiet_now quiet_ofExcept)

variable {α β : Type} {ctx : Context}

theorem refused_bind {x : Except Fault α} (h : ∃ e, x = .error e) {f : α → Except Fault β} :
    ∃ e, x >>= f = .error e := by
  obtain ⟨e, rfl⟩ := h
  exact ⟨e, rfl⟩

section Refused

variable (h : ctx.cancelled = true)
include h

theorem Context.ensureActive_refused : ∃ e, ctx.ensureActive = .error e := ⟨.cancelled, if_pos h⟩

theorem Context.refused {f : Unit → Except Fault α} : ∃ e, ctx.ensureActive >>= f = .error e :=
  refused_bind (Context.ensureActive_refused h)

theorem Menu.Service.allow_refused (s : Service) (m : Method) : ∃ e, s.allow ctx m = .error e := by
  unfold allow
  split
  · exact ⟨_, rfl⟩
  · exact Context.ensureActive_refused h

theorem Menu.Service.refused (s : Service) {m : Method} {f : Unit → Except Fault α} :
    ∃ e, s.allow ctx m >>= f = .error e := refused_bind (s.allow_refused h m)

theorem Menu.Service.dropItem_cancelled {s t : Service} {code id : String}
    (hdrop : s.dropItem ctx code id = .ok t) : t = s := by
  have hdelete : ∃ e, s.deleteItem ctx code id = .error e := s.refused h
  obtain ⟨e, he⟩ := hdelete
  rw [dropItem, he] at hdrop
  dsimp only at hdrop
  split at hdrop
  · cases hdrop
    rfl
  · cases hdrop

end Refused

variable (hcancelled : ctx.cancelled = true)

-- here and below, `R` is anything that holds of the state before the call

namespace Workflow.Runtime

variable {r : Runtime} {R : Runtime → Prop} (hr : R r)

include hr in
theorem fails_onStore {f : Store → Except Fault (α × Store)} (hf : ∃ e, f r.store = .error e) :
    (onStore f).Fails r R := fails_atomic (refused_bind hf) hr

include hcancelled hr

theorem fails_createWorkflow (d : Draft) : (createWorkflow ctx d).Fails r R := by
  refine quiet_now.fails hr fun _ => quiet_fresh.fails hr fun _ => ?_
  refine (quiet_ofExcept _).fails hr fun _ => ?_
  exact Fails.bind (fails_onStore hr (Context.refused hcancelled))

theorem fails_updateWorkflow (id : String) (u : Update) (expected : Nat) :
    (updateWorkflow ctx id u expected).Fails r R :=
  (quiet_ofExcept _).fails hr fun _ => Fails.bind (fails_asks (Context.refused hcancelled) hr)

theorem fails_rollbackWorkflow (id : String) (target expected : Nat) :
    (rollbackWorkflow ctx id target expected).Fails r R :=
  (quiet_ofExcept _).fails hr fun _ => Fails.bind (fails_asks (Context.refused hcancelled) hr)

theorem fails_createBinding (d : Binding.Draft) : (createBinding ctx d).Fails r R := by
  refine quiet_now.fails hr fun _ => quiet_fresh.fails hr fun _ => ?_
  refine (quiet_ofExcept _).fails hr fun _ => ?_
  exact fails_onStore hr (Context.refused hcancelled)

theorem fails_updateBinding (id : String) (u : Binding.Update) (expected : Nat) :
    (updateBinding ctx id u expected).Fails r R :=
  (quiet_ofExcept _).fails hr fun _ => Fails.bind (fails_asks (Context.refused hcancelled) hr)

theorem fails_deleteBinding (id : String) : (deleteBinding ctx id).Fails r R :=
  fails_onStore hr (refused_bind (refused_bind (Context.refused hcancelled)))

theorem fails_bindEngine : (bindEngine ctx).Fails r R :=
  Fails.bind (fails_asks (Context.refused hcancelled) hr)

theorem fails_call (c : Command) : (c.call ctx).Fails r R := by
  cases c with
  | createWorkflow d => exact (fails_createWorkflow hcancelled hr d).map _
  | updateWorkflow id u expected => exact (fails_updateWorkflow hcancelled hr id u expected).map _
  | rollbackWorkflow id target expected =>
    exact (fails_rollbackWorkflow hcancelled hr id target expected).map _
  | createBinding d => exact (fails_createBinding hcancelled hr d).map _
  | updateBinding id u expected => exact (fails_updateBinding hcancelled hr id u expected).map _
  | deleteBinding id => exact (fails_deleteBinding hcancelled hr id).map _
  | bindEngine => exact (fails_bindEngine hcancelled hr).map _

end Workflow.Runtime

namespace Assignment.Queue

variable {s : Store} {R : Store → Prop} (hs : R s)
include hcancelled hs

theorem fails_create (d : Draft) : (create ctx d).Fails s R := by
  refine quiet_now.fails hs fun _ => quiet_fresh.fails hs fun _ => ?_
  exact (quiet_ofExcept _).fails hs fun _ => fails_atomic (Context.refused hcancelled) hs

theorem fails_execute (op : Operation) (a : Action) : (execute ctx op a).Fails s R :=
  Fails.bind (fails_ofExcept (Context.refused hcancelled) hs)

theorem unwritten_executeBulk (op : Operation) (b : BulkAction) :
    (executeBulk ctx op b).Leaves s R := by
  unfold executeBulk
  dsimp only
  split
  · exact ensures_throw hs
  · cases b.actions with
    | nil => exact ensures_pure hs
    | cons a rest =>
      rw [List.mapM_cons]
      have hactive := Context.ensureActive_refused hcancelled
      exact Fails.leaves (Fails.bind (Fails.bind (fails_ofExcept hactive hs)))

theorem unwritten_run (c : Command) : (run ctx c).Leaves s R := by
  cases c with
  | create d => exact Fails.leaves (Fails.bind (fails_create hcancelled hs d))
  | list f => exact Fails.leaves (Fails.bind (fails_asks (Context.refused hcancelled) hs))
  | single op a => exact Fails.leaves (Fails.bind (fails_execute hcancelled hs op a))
  | bulk op b =>
    exact Leaves.answer (unwritten_executeBulk hcancelled hs op b)

end Assignment.Queue

namespace Command.Exchange

theorem dispatchWithin_eq_deliver (b : Bus) (hops : Nat) :
    ∃ dispatch, dispatchWithin b hops = deliver b dispatch := by
  cases hops <;> exact ⟨_, rfl⟩

variable {s : Services} {R : Services → Prop} (hs : R s)
include hcancelled hs

theorem fails_dispatchByName (name : String) (payload : Record) :
    (dispatchByName ctx name payload).Fails s R := by
  obtain ⟨dispatch, hdispatch⟩ := dispatchWithin_eq_deliver s.bus hopLimit
  refine Ensures.seq (ensures_state ?_)
  dsimp only
  rw [hdispatch]
  have hactive := Context.ensureActive_refused hcancelled
  have hrefused : (deliver s.bus dispatch ctx name payload).Fails s.toStores
      fun x => R { s with toStores := x } := Fails.bind (fails_ofExcept hactive hs)
  exact Ensures.within hrefused

theorem fails_send (topic : Topic) (m : Message) : (send ctx topic m).Fails s R :=
  Fails.bind (fails_ofExcept (Context.ensureActive_refused hcancelled) hs)

end Command.Exchange

namespace ContentRecords

variable (c : ContentType) (s : ContentRecords)

theorem fails_writing {operation : String} {f : Repository → Except Fault (α × Repository)}
    (hf : ∀ r, ∃ e, f r = .error e) : (writing c operation f).Fails s (Opened s) := by
  refine Ensures.seq (ensures_state ?_)
  dsimp only
  split
  · exact Fails.bind (fails_throw (.refl s))
  · exact (leaves_partition_opened c s).fails
      (fun r t ht => Fails.bind (fails_ofExcept (hf r) ht)) fun _ ht => ht

theorem leaves_list_opened (o : ListOptions) : (list ctx c o).Leaves s (Opened s) :=
  Leaves.bind (leaves_partition_opened c s) (fun _ _ ht => (quiet_ofExcept _).leaves ht)
    fun _ ht => ht

include hcancelled

theorem fails_get (id : String) : (get ctx c id).Fails s (Opened s) :=
  (leaves_partition_opened c s).fails
    (fun _ _ ht => fails_ofExcept (Context.refused hcancelled) ht) fun _ ht => ht

theorem fails_create (record : Record) : (create ctx c record).Fails s (Opened s) :=
  (quiet_ofExcept _).fails (.refl s) fun _ => quiet_fresh.fails (.refl s) fun _ =>
    fails_writing c s fun _ => Context.refused hcancelled

theorem fails_update (id : String) (patch : Record) :
    (update ctx c id patch).Fails s (Opened s) :=
  fails_writing c s fun _ => refused_bind (Context.refused hcancelled)

theorem fails_delete (id : String) : (delete ctx c id).Fails s (Opened s) :=
  fails_writing c s fun _ => refused_bind (refused_bind (Context.refused hcancelled))

end ContentRecords

structure Services.Unwritten (s t : Services) : Prop where
  rest : t = { s with content := t.content, journal := t.journal }
  content : s.content.Opened t.content
  journal : s.journal <+: t.journal

theorem Services.Unwritten.refl (s : Services) : s.Unwritten s :=
  ⟨rfl, .refl _, List.prefix_rfl⟩

theorem Services.Unwritten.trans {s t u : Services} (hst : s.Unwritten t) (htu : t.Unwritten u) :
    s.Unwritten u := by
  refine ⟨?_, hst.content.trans htu.content, hst.journal.trans htu.journal⟩
  rw [htu.rest, hst.rest]

namespace Panel

variable {s t : Services}

theorem unwritten_onContent {c : Call ContentRecords α}
    (hc : c.Leaves s.content s.content.Opened) : (Services.onContent c).Leaves s s.Unwritten :=
  Ensures.within (hc.imp fun _ _ ht => ⟨rfl, ht, List.prefix_rfl⟩)

theorem fails_onContent {c : Call ContentRecords α}
    (hc : c.Fails s.content s.content.Opened) : (Services.onContent c).Fails s s.Unwritten :=
  Ensures.within (hc.imp fun _ _ ht => ⟨⟨rfl, ht.1, List.prefix_rfl⟩, ht.2⟩)

theorem fails_hooked {c : Call Services α} {f : α → Call Services β}
    (hc : c.Leaves s s.Unwritten) (hf : ∀ a t, (f a).Fails t t.Unwritten) :
    (c >>= f).Fails s s.Unwritten :=
  hc.fails (fun a t ht => (hf a t).imp fun _ _ hu => ⟨ht.trans hu.1, hu.2⟩) fun _ ht => ht

variable (s)

theorem Source.unwritten_list (o : ListOptions) (source : Source) :
    (source.list ctx o).Leaves s s.Unwritten := by
  cases source with
  | table handle => exact (quiet_asks _).leaves (.refl s)
  | content c => exact unwritten_onContent (ContentRecords.leaves_list_opened c _ o)

include hcancelled

theorem Source.fails_get (id : String) (source : Source) :
    (source.get ctx id).Fails s s.Unwritten := by
  cases source with
  | table handle => exact fails_asks (Context.refused hcancelled) (.refl s)
  | content c => exact fails_onContent (ContentRecords.fails_get hcancelled c _ id)

theorem Source.fails_create (record : Record) (source : Source) :
    (source.create ctx record).Fails s s.Unwritten := by
  cases source with
  | table handle =>
    exact quiet_fresh.fails (.refl s) fun _ =>
      fails_atomic (refused_bind (Context.refused hcancelled)) (.refl s)
  | content c => exact fails_onContent (ContentRecords.fails_create hcancelled c _ record)

theorem Source.fails_update (id : String) (patch : Record) (source : Source) :
    (source.update ctx id patch).Fails s s.Unwritten := by
  cases source with
  | table handle =>
    exact fails_atomic (refused_bind (refused_bind (Context.refused hcancelled))) (.refl s)
  | content c => exact fails_onContent (ContentRecords.fails_update hcancelled c _ id patch)

theorem Source.fails_delete (id : String) (source : Source) :
    (source.delete ctx id).Fails s s.Unwritten := by
  cases source with
  | table handle =>
    exact fails_atomic (refused_bind (refused_bind (refused_bind (Context.refused hcancelled))))
      (.refl s)
  | content c => exact fails_onContent (ContentRecords.fails_delete hcancelled c _ id)

variable (p : Panel)

theorem fails_execute (a : Action) (r : ActionRequest) :
    (p.execute ctx a r).Fails s s.Unwritten :=
  Fails.bind (fails_ofExcept (Context.ensureActive_refused hcancelled) (.refl s))

theorem fails_transitionRecord (id name : String) (metadata : Record) :
    (p.transitionRecord ctx id name metadata).Fails s s.Unwritten := by
  unfold transitionRecord
  split
  · exact fails_throw (.refl s)
  · exact Fails.bind (p.source.fails_get hcancelled s id)

theorem Deed.unwritten_call (hhooks : p.hooks.Leave ctx Services.Unwritten) (d : Deed) :
    (d.call p ctx).Leaves s s.Unwritten := by
  cases d with
  | list o =>
    refine Leaves.answer ((quiet_ofExcept _).before (.refl s) fun _ _ => ?_)
    exact p.source.unwritten_list s _
  | get id =>
    exact Fails.leaves (Fails.bind ((quiet_ofExcept _).fails (.refl s) fun _ =>
      p.source.fails_get hcancelled s id))
  | create record =>
    exact Fails.leaves (Fails.bind ((quiet_ofExcept _).fails (.refl s) fun _ =>
      fails_hooked (hhooks.beforeCreate record s) fun record t =>
        Fails.bind (p.source.fails_create hcancelled t record)))
  | update id patch =>
    exact Fails.leaves (Fails.bind ((quiet_ofExcept _).fails (.refl s) fun _ =>
      fails_hooked (hhooks.beforeUpdate id patch s) fun patch t =>
        Fails.bind (p.source.fails_update hcancelled t id patch)))
  | delete id =>
    exact Fails.leaves ((quiet_ofExcept _).fails (.refl s) fun _ =>
      fails_hooked (hhooks.beforeDelete id s) fun _ t =>
        Fails.bind (p.source.fails_delete hcancelled t id))
  | transition id name metadata =>
    exact Fails.leaves (Fails.bind (p.fails_transitionRecord hcancelled s id name metadata))
  | action name r =>
    refine Fails.leaves (Fails.bind ?_)
    unfold runAction
    split
    · exact p.fails_execute hcancelled s _ r
    · split
      · exact p.fails_execute hcancelled s _ r
      · exact fails_throw (.refl s)
  | bulkAction name r =>
    refine Fails.leaves (Fails.bind ?_)
    unfold runBulkAction
    dsimp only
    split
    · exact fails_throw (.refl s)
    · split
      · exact p.fails_execute hcancelled s _ r
      · exact fails_throw (.refl s)

end Panel

namespace Panel.Factory

variable (f : Factory) (runtime : Workflow.Runtime) {s : Site} {R : Site → Prop} (hs : R s)
include hcancelled hs

theorem fails_refresh (c : ContentType) : (f.refresh runtime ctx c).Fails s R :=
  Fails.bind (fails_ofExcept (Context.ensureActive_refused hcancelled) hs)

theorem Request.fails_call (q : Request) : (q.call f runtime ctx).Fails s R := by
  have hactive := Context.ensureActive_refused hcancelled
  cases q with
  | create c => exact Fails.bind (Fails.bind (fails_ofExcept hactive hs))
  | refresh c => exact Fails.bind (f.fails_refresh hcancelled runtime hs c)
  | remove c => exact Fails.bind (fails_ofExcept hactive hs)

end Panel.Factory

namespace Navigation

variable {menus : Menu.Service}
include hcancelled

theorem mergeMenus_cancelled (parts : List (String × List Menu.Item)) :
    (mergeMenus ctx parts).Leaves menus fun t => t = menus := by
  refine leaves_mergeMenus (R := fun t => t = menus) (fun {s t code m} _ hmade => ?_)
    (fun {s t i j} _ hadded => ?_) rfl parts
  · have hrefused : ∃ e, s.createMenu ctx code = .error e := s.refused hcancelled
    obtain ⟨e, he⟩ := hrefused
    cases he.symm.trans hmade
  · have hrefused : ∃ e, s.addItem ctx i = .error e := s.refused hcancelled
    obtain ⟨e, he⟩ := hrefused
    cases he.symm.trans hadded

theorem leaves_mergeItems (hasMenus : Bool) (items : List Menu.Item) (n : Navigation) :
    (mergeItems ctx hasMenus items).Leaves (n, menus) fun t => t = ((n.merge items).2, menus) := by
  refine Ensures.seq (ensures_state (Ensures.seq (ensures_put ?_)))
  dsimp only
  split
  · refine Ensures.within ((mergeMenus_cancelled hcancelled _).imp fun _ _ ht => ?_)
    cases ht
    rfl
  · exact ensures_pure rfl

end Navigation

include hcancelled in
theorem Site.leaves_unregister (name : String) (s : Site) : (unregister ctx name).Leaves s
    fun t => t = { s with registry := s.registry.erase name } := by
  refine Ensures.seq (ensures_reads (Ensures.seq (ensures_change ?_)))
  dsimp only
  split
  · split
    · refine Ensures.seq (ensures_onMenus (fun menus hdrop => ensures_pure ?_) fun _ _ => rfl)
      rw [Menu.Service.dropItem_cancelled hcancelled hdrop]
    · exact ensures_pure rfl
  · exact ensures_pure rfl

namespace Office

open Panel.Factory (pages)

/-- A call that may change the office. -/
inductive Deed where
  | workflows (c : Workflow.Runtime.Command)
  | queue (c : Assignment.Queue.Command)
  | setFeature (key : String) (scope : Feature.Scope) (on : Bool)
  | unsetFeature (key : String) (scope : Feature.Scope)
  | catalog (w : Write)
  | createMenu (code : String)
  | addItem (i : Menu.Item)
  | updateItem (i : Menu.Item)
  | deleteItem (code id : String)
  | createRecord (source : Panel.Source) (record : Record)
  | updateRecord (source : Panel.Source) (id : String) (patch : Record)
  | deleteRecord (source : Panel.Source) (id : String)
  | panel (p : Panel) (d : Panel.Deed)
  | factory (q : Panel.Factory.Request)
  | reconcile
  | unregister (name : String)
  | mergeItems (items : List Menu.Item)
  | savePreferences (p : Dashboard.Preferences)
  | load
  | dispatch (name : String) (payload : Record)
  | send (topic : Command.Topic) (m : Command.Message)

namespace Deed

def call (ctx : Context) : Deed → Call Office Unit
  | workflows c => do let _ ← onRuntime (c.call ctx)
  | queue c => do let _ ← onAssignments (Assignment.Queue.run ctx c)
  | setFeature key scope on => onGate fun g => g.set ctx key scope on
  | unsetFeature key scope => onGate fun g => g.unset ctx key scope
  | catalog w => w.call ctx
  | createMenu code => do let _ ← onMenus fun s => s.createMenu ctx code
  | addItem i => do let _ ← onMenus fun s => s.addItem ctx i
  | updateItem i => do let _ ← onMenus fun s => s.updateItem ctx i
  | deleteItem code id => onMenus fun s => do .ok ((), ← s.deleteItem ctx code id)
  | createRecord source record => do let _ ← onServices (source.create ctx record)
  | updateRecord source id patch => do let _ ← onServices (source.update ctx id patch)
  | deleteRecord source id => onServices (source.delete ctx id)
  | panel p d => onServices (d.call p ctx)
  | factory q => withFactory fun f runtime => q.call f runtime ctx
  | reconcile => do let _ ← Office.reconcile ctx
  | unregister name => do let _ ← onSite (Site.unregister ctx name)
  | mergeItems items => do let _ ← Office.mergeItems ctx items
  | savePreferences p => do let _ ← Office.savePreferences ctx p
  | load => do let _ ← Office.load ctx
  | dispatch name payload => do
    let _ ← onServices (Command.Exchange.dispatchByName ctx name payload)
  | send topic m => do let _ ← onServices (Command.Exchange.send ctx topic m)

/-- The code of the host that runs before anybody asks writes nothing of a cancelled request. -/
def Heeds (ctx : Context) : Deed → Prop
  | panel p _ => p.hooks.Leave ctx Services.Unwritten
  | _ => True

/-- What the call does to the office without asking whether the request is cancelled. -/
def unasked (o : Office) : Deed → Office
  | unregister name => { o with site := { o.site with registry := o.site.registry.erase name } }
  | mergeItems items => { o with navigation := (o.navigation.merge items).2 }
  | _ => o

end Deed

/-- Nothing is written, unless there are no modules, whose loading is reported then. -/
structure Unwritten (o o' : Office) : Prop where
  rest : o' = { o with services := o'.services, report := o'.report }
  services : o.services.Unwritten o'.services
  report : o'.report = o.report ∨ o.modules = []

variable {o : Office}

theorem Unwritten.refl (o : Office) : Unwritten o o := ⟨rfl, .refl _, .inl rfl⟩

theorem unwritten_onServices {c : Call Services α}
    (hc : c.Leaves o.services o.services.Unwritten) : (onServices c).Leaves o (Unwritten o) :=
  Ensures.within (hc.imp fun _ _ ht => ⟨rfl, ht, .inl rfl⟩)

theorem unwritten_onRuntime {c : Call Workflow.Runtime α}
    (hc : c.Leaves o.services.runtime (Eq o.services.runtime)) :
    (onRuntime c).Leaves o (Unwritten o) :=
  unwritten_onServices (Ensures.within (hc.imp fun _ _ ht => ht ▸ .refl _))

theorem fails_onGate {f : Feature.Gate → Except Fault Feature.Gate}
    (hf : ∃ e, f o.gate = .error e) : (onGate f).Fails o (Unwritten o) := by
  unfold onGate onServices
  exact Ensures.within (fails_update (R := fun s => Unwritten o { o with services := s })
    (refused_bind hf) (.refl o))

include hcancelled

theorem Write.fails_call (w : Write) : (w.call ctx).Fails o (Unwritten o) := by
  have hwrite : ∀ {event : ContentType → ContentType.Event}
      {f : ContentType.Catalog → Except Fault (ContentType × ContentType.Catalog)},
      (∃ e, f o.catalog = .error e) → (writeType event ctx f).Fails o (Unwritten o) :=
    fun hf => Fails.bind (fails_atomic (refused_bind hf) (.refl o))
  cases w with
  | create c =>
    exact Fails.bind (quiet_now.fails (.refl o) fun _ => quiet_fresh.fails (.refl o) fun _ =>
      hwrite (Context.refused hcancelled))
  | update c =>
    exact Fails.bind (quiet_now.fails (.refl o) fun _ => hwrite (Context.refused hcancelled))
  | delete id => exact Fails.bind (hwrite (refused_bind (Context.refused hcancelled)))

theorem gate_refused (g : Feature.Gate) (operation key : String)
    (f : List Feature.Override → List Feature.Override) :
    ∃ e, g.change ctx operation key f = .error e := by
  unfold Feature.Gate.change
  cases Feature.checkKey key with
  | error e => exact ⟨e, rfl⟩
  | ok _ =>
    cases g.overrides with
    | none => exact ⟨_, rfl⟩
    | some overrides => exact Context.refused hcancelled

theorem fails_savePreferences (p : Dashboard.Preferences) :
    (savePreferences ctx p).Fails o (Unwritten o) :=
  quiet_now.fails (.refl o) fun _ =>
    fails_atomic (refused_bind (Context.refused hcancelled)) (.refl o)

theorem leaves_merged (items : List Menu.Item) : (mergeItems ctx items).Leaves o
    fun o' => o' = { o with navigation := (o.navigation.merge items).2 } := by
  refine Ensures.seq (ensures_state (Ensures.within ?_))
  exact (Navigation.leaves_mergeItems hcancelled _ items o.navigation).imp
    fun _ _ ht => by cases ht; rfl

theorem unwritten_load : (load ctx).Leaves o (Unwritten o) := by
  refine Ensures.seq (ensures_state ?_)
  dsimp only
  split
  · exact ensures_pure (.refl o)
  · cases hmodules : o.modules with
    | nil =>
      -- nobody asks, and nothing is merged
      refine Ensures.seq (ensures_pure (Leaves.bind (leaves_merged hcancelled []) ?_ ?_))
      · rintro _ _ rfl
        exact Ensures.seq (ensures_change (ensures_pure ⟨rfl, .refl _, .inr hmodules⟩))
      · rintro _ rfl
        exact .refl o
    | cons m rest =>
      exact Fails.leaves (Fails.bind (Fails.bind
        (fails_ofExcept (Context.ensureActive_refused hcancelled) (.refl o))))

theorem Deed.unwritten_call (d : Deed) (hheeds : d.Heeds ctx) :
    (d.call ctx).Leaves o (Unwritten (d.unasked o)) := by
  cases d with
  | workflows c =>
    exact Leaves.answer (unwritten_onRuntime (Workflow.Runtime.fails_call hcancelled rfl c).leaves)
  | queue c =>
    have hrun := Assignment.Queue.unwritten_run hcancelled (Eq.refl o.services.assignments) c
    refine Leaves.answer (unwritten_onServices (Ensures.within (Ensures.within (hrun.imp ?_))))
    intro _ _ ht
    rw [← ht]
    exact .refl _
  | setFeature key scope on =>
    have hset : ∃ e, o.gate.set ctx key scope on = .error e := gate_refused hcancelled _ _ _ _
    have hfails := fails_onGate (f := fun g => g.set ctx key scope on) hset
    exact hfails.leaves
  | unsetFeature key scope =>
    have hunset : ∃ e, o.gate.unset ctx key scope = .error e := gate_refused hcancelled _ _ _ _
    have hfails := fails_onGate (f := fun g => g.unset ctx key scope) hunset
    exact hfails.leaves
  | catalog w => exact Fails.leaves (w.fails_call hcancelled)
  | createMenu code =>
    exact Fails.leaves (Fails.bind (fails_atomic
      (refused_bind (o.site.menus.refused hcancelled)) (.refl o)))
  | addItem i =>
    exact Fails.leaves (Fails.bind (fails_atomic
      (refused_bind (o.site.menus.refused hcancelled)) (.refl o)))
  | updateItem i =>
    exact Fails.leaves (Fails.bind (fails_atomic
      (refused_bind (o.site.menus.refused hcancelled)) (.refl o)))
  | deleteItem code id =>
    exact Fails.leaves (fails_atomic
      (refused_bind (refused_bind (o.site.menus.refused hcancelled))) (.refl o))
  | createRecord source record =>
    exact Leaves.answer (unwritten_onServices (source.fails_create hcancelled _ record).leaves)
  | updateRecord source id patch =>
    exact Leaves.answer (unwritten_onServices (source.fails_update hcancelled _ id patch).leaves)
  | deleteRecord source id =>
    exact unwritten_onServices (source.fails_delete hcancelled _ id).leaves
  | panel p d => exact unwritten_onServices (d.unwritten_call hcancelled _ p hheeds)
  | factory q =>
    refine Ensures.seq (ensures_state (Ensures.within ?_))
    exact (q.fails_call hcancelled _ _ (.refl o)).leaves
  | reconcile =>
    exact Fails.leaves (Fails.bind (Fails.bind (fails_asks (Context.refused hcancelled) (.refl o))))
  | unregister name =>
    refine Leaves.answer (Ensures.within ?_)
    refine (Site.leaves_unregister hcancelled name o.site).imp ?_
    rintro _ _ rfl
    exact .refl _
  | mergeItems items =>
    refine Leaves.answer ((leaves_merged hcancelled items).imp ?_)
    rintro _ _ rfl
    exact .refl _
  | savePreferences p => exact Fails.leaves (Fails.bind (fails_savePreferences hcancelled p))
  | load => exact Leaves.answer (unwritten_load hcancelled)
  | dispatch name payload =>
    exact Leaves.answer (unwritten_onServices
      (Command.Exchange.fails_dispatchByName hcancelled (.refl _) name payload).leaves)
  | send topic m =>
    exact Leaves.answer (unwritten_onServices
      (Command.Exchange.fails_send hcancelled (.refl _) topic m).leaves)

theorem cancelled_writes_nothing (o : Office) (d : Deed) (hheeds : d.Heeds ctx) (supply : Supply) :
    Unwritten (d.unasked o) (d.call ctx (supply, o)).2.2 :=
  d.unwritten_call hcancelled hheeds supply

omit hcancelled

def aborted : Context := { Context.empty with cancelled := true }

def Deed.after (d : Deed) (o : Office) : Office := (d.call aborted (⟨⟨0, 0⟩, 0⟩, o)).2.2

/-- Pages come with a panel, unless their creation is cancelled. -/
theorem cancelled_writes_nothing_pages :
    let w : Write := .create (pages .active "a")
    aborted.cancelled = true ∧ (vacant.afterWrite w).site.registry.contains "pages@a" = true ∧
      Unwritten vacant ((Deed.catalog w).after vacant) := by
  intro w
  have haborted : aborted.cancelled = true := rfl
  refine ⟨haborted, by decide, ?_⟩
  exact cancelled_writes_nothing haborted vacant (.catalog w) trivial ⟨⟨0, 0⟩, 0⟩

/-- A panel is unregistered, and a menu item is added to the navigation, although the request is
cancelled. -/
theorem cancelled_writes :
    let o := vacant.afterWrite (.create (pages .active "a"))
    aborted.cancelled = true ∧
      o.site.registry.contains "pages@a" = true ∧
      ((Deed.unregister "pages@a").after o).site.registry.contains "pages@a" = false ∧
      o.navigation.contains "admin" = false ∧
      ((Deed.mergeItems [.new "admin" "Help" (.url "/help")]).after o).navigation.contains "admin"
        = true := by
  decide +kernel

end Office

end Backoffice

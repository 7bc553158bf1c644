import Backoffice.Panel.Registry
import Backoffice.Proofs.Dict
import Backoffice.Proofs.Ensures

namespace Backoffice

open Call (Leaves Quiet ensures_mapM ensures_pure ensures_throw ensures_ofExcept quiet_asks
  quiet_ofExcept)

namespace ContentRecords

def recordsOf (s : ContentRecords) (id : String) : Dict Record :=
  ((s.partitions.get? id).map (·.records)).getD .empty

structure Same (s t : ContentRecords) : Prop where
  readOnly : t.readOnly = s.readOnly
  records : ∀ id, t.recordsOf id = s.recordsOf id

theorem Same.refl (s : ContentRecords) : Same s s := ⟨rfl, fun _ => rfl⟩

theorem Same.trans {s t u : ContentRecords} (hst : Same s t) (htu : Same t u) : Same s u :=
  ⟨htu.readOnly.trans hst.readOnly, fun id => (htu.records id).trans (hst.records id)⟩

structure Opened (s t : ContentRecords) : Prop where
  readOnly : t.readOnly = s.readOnly
  partitions : ∀ id, t.partitions.get? id = s.partitions.get? id ∨
    s.partitions.get? id = none ∧ ∃ slug, t.partitions.get? id = some (.new slug)

theorem Opened.refl (s : ContentRecords) : Opened s s := ⟨rfl, fun _ => .inl rfl⟩

theorem Opened.trans {s t u : ContentRecords} (hst : Opened s t) (htu : Opened t u) :
    Opened s u := by
  refine ⟨htu.readOnly.trans hst.readOnly, fun id => ?_⟩
  rcases htu.partitions id with hu | ⟨hnone, hu⟩ <;> rcases hst.partitions id with ht | ⟨hs, ht⟩
  · exact .inl (hu.trans ht)
  · exact .inr ⟨hs, hu ▸ ht⟩
  · exact .inr ⟨ht ▸ hnone, hu⟩
  · exact .inr ⟨hs, hu⟩

theorem Opened.same {s t : ContentRecords} (h : Opened s t) : Same s t := by
  refine ⟨h.readOnly, fun id => ?_⟩
  rcases h.partitions id with ht | ⟨hs, slug, ht⟩
  · rw [recordsOf, recordsOf, ht]
  · rw [recordsOf, recordsOf, hs, ht]
    rfl

theorem leaves_partition_opened (c : ContentType) (s : ContentRecords) :
    (partition c).Leaves s (Opened s) := by
  refine Call.Ensures.seq (Call.ensures_state ?_)
  dsimp only
  split
  · exact ensures_pure (.refl s)
  · rename_i hnone
    have hopened : Opened s { s with partitions := s.partitions.set c.id (.new c.slug) } := by
      refine ⟨rfl, fun id => ?_⟩
      rw [Dict.get?_set]
      split
      · rename_i hid
        exact .inr ⟨hid ▸ hnone, c.slug, rfl⟩
      · exact .inl rfl
    exact fun _ => hopened

theorem leaves_partition (c : ContentType) (s : ContentRecords) :
    (partition c).Leaves s (Same s) :=
  (leaves_partition_opened c s).imp fun _ _ h => h.same

theorem leaves_list (ctx : Context) (c : ContentType) (o : ListOptions) (s : ContentRecords) :
    (list ctx c o).Leaves s (Same s) :=
  Leaves.bind (leaves_partition c s) (fun _ _ ht => (quiet_ofExcept _).leaves ht) fun _ ht => ht

theorem leaves_get (ctx : Context) (c : ContentType) (id : String) (s : ContentRecords) :
    (get ctx c id).Leaves s (Same s) :=
  Leaves.bind (leaves_partition c s) (fun _ _ ht => (quiet_ofExcept _).leaves ht) fun _ ht => ht

end ContentRecords

/-- Reading left everything as it was, but for repositories that have no records yet. -/
structure Services.Reads (s t : Services) : Prop where
  rest : t = { s with content := t.content }
  content : s.content.Same t.content

theorem Services.Reads.refl (s : Services) : Services.Reads s s := ⟨rfl, .refl _⟩

theorem Services.Reads.trans {s t u : Services} (hst : Services.Reads s t)
    (htu : Services.Reads t u) : Services.Reads s u := by
  refine ⟨?_, hst.content.trans htu.content⟩
  rw [htu.rest, hst.rest]

namespace Panel

variable {p : Panel} {ctx : Context}

theorem leaves_onContent {α : Type} {c : Call ContentRecords α} {s : Services}
    (hc : c.Leaves s.content s.content.Same) : (Services.onContent c).Leaves s s.Reads :=
  Call.Ensures.within (hc.imp fun _ _ ht => ⟨rfl, ht⟩)

theorem Source.leaves_list (ctx : Context) (o : ListOptions) (source : Source) (s : Services) :
    (source.list ctx o).Leaves s s.Reads := by
  cases source with
  | table handle => exact (quiet_asks _).leaves (.refl s)
  | content c => exact leaves_onContent (ContentRecords.leaves_list ctx c o _)

theorem Source.leaves_get (ctx : Context) (id : String) (source : Source) (s : Services) :
    (source.get ctx id).Leaves s s.Reads := by
  cases source with
  | table handle => exact (quiet_asks _).leaves (.refl s)
  | content c => exact leaves_onContent (ContentRecords.leaves_get ctx c id _)

theorem leaves_list (p : Panel) (ctx : Context) (o : ListOptions) (s : Services) :
    (p.list ctx o).Leaves s s.Reads :=
  (quiet_ofExcept _).before (.refl s) fun _ _ => Source.leaves_list ctx _ p.source s

theorem leaves_get (p : Panel) (ctx : Context) (id : String) (s : Services) :
    (p.get ctx id).Leaves s s.Reads :=
  (quiet_ofExcept _).before (.refl s) fun _ _ => Source.leaves_get ctx id p.source s

theorem Adapter.leaves_search (a : Adapter) (ctx : Context) (query : String) (limit : Nat)
    (s : Services) : (a.search ctx query limit).Leaves s s.Reads :=
  Leaves.answer (Panel.leaves_list a.panel ctx _ s)

theorem Registry.leaves_searchIn (r : Registry) (ctx : Context) (query : String) (limit : Nat)
    (adapters : List (String × Adapter)) (s : Services) :
    (r.searchIn ctx query limit adapters).Leaves s s.Reads := by
  induction adapters generalizing limit s with
  | nil => exact ensures_pure (.refl s)
  | cons adapter rest ih =>
    obtain ⟨name, a⟩ := adapter
    refine (quiet_ofExcept _).before (.refl s) fun _ _ => ?_
    split
    · refine Leaves.bind (a.leaves_search ctx query limit s) (fun hits t ht => ?_) fun _ ht => ht
      split
      · exact ensures_pure ht
      · exact Leaves.answer ((ih (limit - hits.length) t).imp fun _ _ hu => ht.trans hu)
    · exact ih limit s

theorem Registry.leaves_search (r : Registry) (ctx : Context) (query : String) (limit : Nat)
    (s : Services) : (r.search ctx query limit).Leaves s s.Reads := by
  unfold search
  split
  · exact ensures_pure (.refl s)
  · exact r.leaves_searchIn ctx _ limit _ s

structure RecordsOnly (s t : Services) : Prop where
  rest : t = { s with tables := t.tables, content := t.content, enforcer := t.enforcer }

theorem RecordsOnly.refl (s : Services) : RecordsOnly s s := ⟨rfl⟩

theorem RecordsOnly.trans {s t u : Services} (hst : RecordsOnly s t) (htu : RecordsOnly t u) :
    RecordsOnly s u := by
  refine ⟨?_⟩
  rw [htu.rest, hst.rest]

theorem leaves_onTable {α : Type} (handle : String) (f : Repository → Except Fault (α × Repository))
    (s : Services) : (Services.onTable handle f).Leaves s (RecordsOnly s) := by
  refine Call.ensures_atomic (fun a t h => ?_) fun _ _ => .refl s
  obtain ⟨⟨b, r⟩, -, h⟩ := bind_eq_ok.1 h
  cases h
  exact ⟨rfl⟩

theorem leaves_onContent_records {α : Type} (c : Call ContentRecords α) (s : Services) :
    (Services.onContent c).Leaves s (RecordsOnly s) := fun _ => ⟨rfl⟩

theorem Source.leaves_get_records (ctx : Context) (id : String) (source : Source) (s : Services) :
    (source.get ctx id).Leaves s (RecordsOnly s) :=
  (source.leaves_get ctx id s).imp fun _ t ht => by
    rw [ht.rest]
    exact ⟨rfl⟩

theorem Source.leaves_create (ctx : Context) (record : Record) (source : Source) (s : Services) :
    (source.create ctx record).Leaves s (RecordsOnly s) := by
  cases source with
  | table handle => exact Call.quiet_fresh.before (.refl s) fun _ _ => leaves_onTable handle _ s
  | content c => exact leaves_onContent_records _ s

theorem Source.leaves_update (ctx : Context) (id : String) (patch : Record) (source : Source)
    (s : Services) : (source.update ctx id patch).Leaves s (RecordsOnly s) := by
  cases source with
  | table handle => exact leaves_onTable handle _ s
  | content c => exact leaves_onContent_records _ s

theorem Source.leaves_delete (ctx : Context) (id : String) (source : Source) (s : Services) :
    (source.delete ctx id).Leaves s (RecordsOnly s) := by
  cases source with
  | table handle => exact leaves_onTable handle _ s
  | content c => exact leaves_onContent_records _ s

/-- Every hook leaves what stands in a relation to what it found. -/
structure Hooks.Leave (h : Hooks) (ctx : Context) (R : Services → Services → Prop) : Prop where
  beforeCreate : ∀ record s, (h.beforeCreate ctx record).Leaves s (R s)
  afterCreate : ∀ record s, (h.afterCreate ctx record).Leaves s (R s)
  beforeUpdate : ∀ id patch s, (h.beforeUpdate ctx id patch).Leaves s (R s)
  afterUpdate : ∀ record s, (h.afterUpdate ctx record).Leaves s (R s)
  beforeDelete : ∀ id s, (h.beforeDelete ctx id).Leaves s (R s)
  afterDelete : ∀ id s, (h.afterDelete ctx id).Leaves s (R s)

structure Bounds (p : Panel) (ctx : Context) (R : Services → Services → Prop) : Prop where
  records : ∀ {s t}, RecordsOnly s t → R s t
  trans : ∀ {s t u}, R s t → R t u → R s u
  hooks : p.hooks.Leave ctx R

theorem bounds_plain (p : Panel) (ctx : Context) :
    p.Bounds ctx fun s t => p.hooks = .none → RecordsOnly s t where
  records h _ := h
  trans hst htu hnone := (hst hnone).trans (htu hnone)
  hooks := by
    constructor <;> intros <;> intro supply hnone <;> rw [hnone] <;> exact .refl _

section

variable {R : Services → Services → Prop} (h : p.Bounds ctx R)
include h

theorem Bounds.refl (s : Services) : R s s := h.records (.refl s)

theorem Bounds.bind {α β : Type} {c : Call Services α} {f : α → Call Services β} {s : Services}
    (hc : c.Leaves s (R s)) (hf : ∀ a t, (f a).Leaves t (R t)) : (c >>= f).Leaves s (R s) :=
  Call.Ensures.trans (T := R) h.trans hc fun a t _ => hf a t

theorem Bounds.only {α : Type} {c : Call Services α} {s : Services}
    (hc : c.Leaves s (RecordsOnly s)) : c.Leaves s (R s) := hc.imp fun _ _ ht => h.records ht

theorem Bounds.leaves_write (id : String) (patch : Record) (s : Services) :
    (p.write ctx id patch).Leaves s (R s) := by
  refine h.bind (h.hooks.beforeUpdate id patch s) fun patch t => ?_
  refine h.bind (h.only (p.source.leaves_update ctx id patch t)) fun updated u => ?_
  exact h.bind (h.hooks.afterUpdate updated u) fun _ v => ensures_pure (h.refl v)

theorem Bounds.leaves_fired (id : String) (l : Lifecycle) (r : Workflow.TransitionRequest)
    (s : Services) : ((Call.asks fun s : Services => s.runtime.engine.fire ctx r) >>= fun (_, target) =>
      p.write ctx id [(l.stateField, .str target)]).Leaves s (R s) :=
  (quiet_asks _).before (h.refl s) fun _ _ => h.leaves_write id _ s

theorem Bounds.leaves_transitionRecord (id transition : String) (metadata : Record) (s : Services) :
    (p.transitionRecord ctx id transition metadata).Leaves s (R s) := by
  unfold transitionRecord
  split
  · exact ensures_throw (h.refl s)
  · refine h.bind (h.only (p.source.leaves_get_records ctx id s)) fun record t => ?_
    dsimp only
    split
    · exact h.bind (h.only fun _ => ⟨rfl⟩) fun _ u => h.leaves_fired id _ _ u
    · exact h.leaves_fired id _ _ t

theorem Bounds.leaves_created (record : Record) (s : Services) : (do
    let record ← p.hooks.beforeCreate ctx record
    let created ← p.source.create ctx record
    p.hooks.afterCreate ctx created
    pure created : Call Services Record).Leaves s (R s) := by
  refine h.bind (h.hooks.beforeCreate record s) fun record t => ?_
  refine h.bind (h.only (p.source.leaves_create ctx record t)) fun created u => ?_
  exact h.bind (h.hooks.afterCreate created u) fun _ v => ensures_pure (h.refl v)

theorem Bounds.leaves_deleted (id : String) (s : Services) : (do
    p.hooks.beforeDelete ctx id
    p.source.delete ctx id
    p.hooks.afterDelete ctx id : Call Services Unit).Leaves s (R s) := by
  refine h.bind (h.hooks.beforeDelete id s) fun _ t => ?_
  exact h.bind (h.only (p.source.leaves_delete ctx id t)) fun _ u => h.hooks.afterDelete id u

end

inductive Deed where
  | list (o : ListOptions)
  | get (id : String)
  | create (record : Record)
  | update (id : String) (patch : Record)
  | delete (id : String)
  | transition (id name : String) (metadata : Record)
  | action (name : String) (r : ActionRequest)
  | bulkAction (name : String) (r : ActionRequest)

def Deed.call (p : Panel) (ctx : Context) : Deed → Call Services Unit
  | list o => do let _ ← p.list ctx o
  | get id => do let _ ← p.get ctx id
  | create record => do let _ ← p.create ctx record
  | update id patch => do let _ ← p.update ctx id patch
  | delete id => p.delete ctx id
  | transition id name metadata => do let _ ← p.transitionRecord ctx id name metadata
  | action name r => do let _ ← p.runAction ctx name r
  | bulkAction name r => do let _ ← p.runBulkAction ctx name r

inductive Asks (p : Panel) : String → Prop
  | create : Asks p p.permissions.create
  | edit : Asks p p.permissions.edit
  | delete : Asks p p.permissions.delete
  | action {a : Action} : a ∈ p.actions ++ p.bulkActions → Asks p (p.permissionFor a)

inductive Records (p : Panel) (ctx : Context) (s t : Services) : Prop
  | refused : t = s → Records p ctx s t
  | written {permission : String} : p.Asks permission → p.authorize ctx permission = .ok () →
      (p.hooks = .none → RecordsOnly s t) → Records p ctx s t

def Delegates (p : Panel) (a : Action) : Prop :=
  (∃ run, a.target = .handler run) ∨ ∃ name, a.target = .command name ∧ p.commands = true

/-- No code of the host runs behind the panel. -/
structure Plain (p : Panel) : Prop where
  hooks : p.hooks = .none
  actions : ∀ a ∈ p.actions ++ p.bulkActions, ¬p.Delegates a

inductive Runs (p : Panel) (ctx : Context) (s t : Services) : Prop
  | records : p.Records ctx s t → Runs p ctx s t
  | delegated {a : Action} : a ∈ p.actions ++ p.bulkActions → p.Delegates a →
      p.authorize ctx (p.permissionFor a) = .ok () → Runs p ctx s t

theorem Runs.refused (s : Services) : p.Runs ctx s s := .records (.refused rfl)

theorem leaves_authorized {α : Type} {permission : String} {c : Call Services α} {s : Services}
    (hasks : p.Asks permission)
    (hc : c.Leaves s fun t => p.hooks = .none → RecordsOnly s t) :
    (do Call.ofExcept (p.authorize ctx permission); c).Leaves s (p.Records ctx s) :=
  (quiet_ofExcept _).before (.refused rfl) fun _ hauthorized =>
    hc.imp fun _ _ ht => .written hasks (Call.answers_ofExcept.1 hauthorized) ht

theorem leaves_create (p : Panel) (ctx : Context) (record : Record) (s : Services) :
    (p.create ctx record).Leaves s (p.Records ctx s) :=
  leaves_authorized .create ((p.bounds_plain ctx).leaves_created record s)

theorem leaves_update (p : Panel) (ctx : Context) (id : String) (patch : Record) (s : Services) :
    (p.update ctx id patch).Leaves s (p.Records ctx s) :=
  leaves_authorized .edit ((p.bounds_plain ctx).leaves_write id patch s)

theorem leaves_delete (p : Panel) (ctx : Context) (id : String) (s : Services) :
    (p.delete ctx id).Leaves s (p.Records ctx s) :=
  leaves_authorized .delete ((p.bounds_plain ctx).leaves_deleted id s)

theorem leaves_execute {a : Action} (hasks : p.Asks (p.permissionFor a))
    (hdeclared : a ∈ p.actions ++ p.bulkActions ∨ ∃ name, a.target = .transition name)
    (r : ActionRequest) (s : Services) : (p.execute ctx a r).Leaves s (p.Runs ctx s) := by
  refine (quiet_ofExcept _).before (.refused s) fun _ _ => ?_
  have hrecords : ∀ {α : Type} {c : Call Services α},
      (c.Leaves s fun t => p.hooks = .none → RecordsOnly s t) →
        (do Call.ofExcept (p.authorize ctx (p.permissionFor a)); c).Leaves s (p.Runs ctx s) :=
    fun hc => (leaves_authorized hasks hc).imp fun _ _ ht => .records ht
  have hdelegated (hdelegates : p.Delegates a)
      (hauthorized : p.authorize ctx (p.permissionFor a) = .ok ()) (t : Services) : p.Runs ctx s t := by
    rcases hdeclared with ha | ⟨name, hname⟩
    · exact .delegated ha hdelegates hauthorized
    · rcases hdelegates with ⟨_, htarget⟩ | ⟨_, htarget, -⟩ <;> cases hname.symm.trans htarget
  cases htarget : a.target with
  | client => exact hrecords (ensures_throw fun _ => .refl s)
  | transition name =>
    refine hrecords ?_
    dsimp only
    split
    · exact ensures_throw fun _ => .refl s
    · refine Leaves.answer (ensures_mapM (fun id _ t ht => ?_) fun _ => .refl s)
      exact ((p.bounds_plain ctx).leaves_transitionRecord id name r.payload t).imp
        fun _ _ hu hnone => (ht hnone).trans (hu hnone)
  | handler run =>
    refine (quiet_ofExcept _).before (.refused s) fun _ hauthorized => fun _ => ?_
    exact hdelegated (.inl ⟨run, htarget⟩) (Call.answers_ofExcept.1 hauthorized) _
  | command name =>
    refine (quiet_ofExcept _).before (.refused s) fun _ hauthorized => ?_
    dsimp only
    split
    · rename_i hcommands
      exact fun _ => hdelegated (.inr ⟨name, htarget, hcommands⟩)
        (Call.answers_ofExcept.1 hauthorized) _
    · exact ensures_throw (.refused s)

theorem Action.mem_of_find? {actions : List Action} {name : String} {a : Action}
    (h : Action.find? actions name = some a) : a ∈ actions :=
  List.mem_of_find?_eq_some h

theorem leaves_runAction (p : Panel) (ctx : Context) (name : String) (r : ActionRequest)
    (s : Services) : (p.runAction ctx name r).Leaves s (p.Runs ctx s) := by
  unfold runAction
  split
  · rename_i a hfind
    have ha := List.mem_append_left p.bulkActions (Action.mem_of_find? hfind)
    exact leaves_execute (.action ha) (.inl ha) r s
  · split
    · exact leaves_execute (a := .transition name) .edit (.inr ⟨name, rfl⟩) r s
    · exact ensures_throw (.refused s)

theorem leaves_runBulkAction (p : Panel) (ctx : Context) (name : String) (r : ActionRequest)
    (s : Services) : (p.runBulkAction ctx name r).Leaves s (p.Runs ctx s) := by
  unfold runBulkAction
  dsimp only
  split
  · exact ensures_throw (.refused s)
  · split
    · rename_i a hfind
      have ha := List.mem_append_right p.actions (Action.mem_of_find? hfind)
      exact leaves_execute (.action ha) (.inl ha) r s
    · exact ensures_throw (.refused s)

end Panel

end Backoffice

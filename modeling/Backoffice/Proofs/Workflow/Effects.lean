import Backoffice.Proofs.Ensures
import Backoffice.Proofs.Text.Key
import Backoffice.Proofs.Workflow.Steps

namespace Backoffice.Workflow

namespace Store

structure Filed (s : Store) : Prop where
  workflow : ∀ {id w}, s.workflows.get? id = some w → w.id = id
  binding : ∀ {id b}, s.bindings.get? id = some b → b.id = id

theorem filed_empty : Filed .empty where
  workflow h := by cases h
  binding h := by cases h

def putBinding (s : Store) (b : Binding) : Store :=
  { s with bindings := s.bindings.set b.id b }

def dropBinding (s : Store) (id : String) : Store :=
  { s with bindings := s.bindings.erase id }

theorem get?_putBinding (s : Store) (b : Binding) (id : String) :
    (s.putBinding b).bindings.get? id = if id = b.id then some b else s.bindings.get? id :=
  Dict.get?_set s.bindings b.id id b

theorem get?_dropBinding (s : Store) (id id' : String) :
    (s.dropBinding id).bindings.get? id' = if id' = id then none else s.bindings.get? id' :=
  Dict.get?_erase s.bindings id id'

theorem Filed.write {s : Store} (h : Filed s) (w : Workflow) : Filed (s.write w) where
  workflow hw := by
    rw [get?_write] at hw
    split at hw
    · cases hw
      simp_all
    · exact h.workflow hw
  binding := h.binding

theorem Filed.putBinding {s : Store} (h : Filed s) (b : Binding) : Filed (s.putBinding b) where
  workflow := h.workflow
  binding hb := by
    rw [get?_putBinding] at hb
    split at hb
    · cases hb
      simp_all
    · exact h.binding hb

theorem Filed.dropBinding {s : Store} (h : Filed s) (id : String) : Filed (s.dropBinding id) where
  workflow := h.workflow
  binding hb := by
    rw [get?_dropBinding] at hb
    split at hb
    · cases hb
    · exact h.binding hb

theorem getRevision_mem {s : Store} {ctx : Context} {id : String} {v : Nat} {rev : Revision}
    (h : s.getRevision ctx id v = .ok rev) : rev ∈ s.history id ∧ rev.version = v := by
  obtain ⟨_, -, h⟩ := bind_eq_ok.1 h
  split at h
  · rename_i hfind
    cases h
    have hversion := List.find?_some hfind
    exact ⟨List.mem_of_find?_eq_some hfind, beq_iff_eq.1 hversion⟩
  · cases h

end Store

namespace Runtime

open Store (Filed)

inductive Writes (s : Store) : Command → Workflow → Prop
  | created {d now fresh} : s.workflows.get? (d.workflow now fresh).id = none →
      Writes s (.createWorkflow d) (d.workflow now fresh)
  | updated {id u current now} : s.workflows.get? (Text.key id) = some current →
      Writes s (.updateWorkflow id u current.version)
        { u.applyTo now current with version := current.version + 1 }
  | restored {id rev current now} : rev ∈ s.history (Text.key id) →
      s.workflows.get? (Text.key id) = some current →
      Writes s (.rollbackWorkflow id rev.version current.version)
        { (Update.ofRevision rev).applyTo now current with version := current.version + 1 }

inductive Attaches (s : Store) : Command → Binding → Prop
  | created {d now fresh} : Attaches s (.createBinding d) (d.binding now fresh)
  | updated {id u current now} : s.bindings.get? (Text.trim id) = some current →
      Attaches s (.updateBinding id u current.version)
        { u.applyTo now current with version := current.version + 1 }

inductive Effect (s : Store) (c : Command) : Store → Prop
  | nothing : Effect s c s
  | workflow {w} : Writes s c w → Effect s c (s.write w)
  | binding {b} : Attaches s c b → s.checkReference b = .ok () → Effect s c (s.putBinding b)
  | removal {id} : c = .deleteBinding id → Effect s c (s.dropBinding (Text.trim id))

theorem Effect.filed {s t : Store} {c : Command} (h : Effect s c t) (hs : Filed s) : Filed t := by
  cases h with
  | nothing => exact hs
  | workflow => exact hs.write _
  | binding => exact hs.putBinding _
  | removal => exact hs.dropBinding _

open Call (Ensures ensures_now ensures_fresh ensures_ofExcept ensures_asks ensures_pure
  ensures_change ensures_forM)

variable {α : Type} {r : Runtime}

theorem ensures_onStore {f : Store → Except Fault (α × Store)} {P : Except Fault α → Runtime → Prop}
    (hok : ∀ a store, f r.store = .ok (a, store) → P (.ok a) { r with store })
    (herror : ∀ e, f r.store = .error e → P (.error e) r) : (onStore f).Ensures r P := by
  intro supply
  rw [onStore_apply]
  split
  · rename_i a store h
    exact hok a store h
  · rename_i e h
    exact herror e h

theorem ensures_told (w : Workflow) {P : Store → Prop} (h : P r.store) :
    (do follow w; pure w : Call Runtime Workflow).Ensures r fun _ r' => P r'.store := by
  have hsame : (follow w).Ensures r fun _ r' => r'.store = r.store :=
    fun supply => store_follow w supply r
  refine hsame.bind (fun _ t ht => ensures_pure ?_) fun _ t ht => ?_ <;> rwa [ht]

theorem createWorkflow_effect (ctx : Context) (d : Draft) :
    (createWorkflow ctx d).Ensures r fun _ r' => Effect r.store (.createWorkflow d) r'.store := by
  refine Ensures.seq (ensures_now fun now => Ensures.seq (ensures_fresh fun fresh => ?_))
  refine Ensures.seq (ensures_ofExcept (fun _ _ => ?_) fun _ _ => .nothing)
  refine Ensures.seq (ensures_onStore ?_ fun _ _ => .nothing)
  intro w store h
  obtain ⟨rfl, habsent, rfl⟩ := Store.insertWorkflow_eq_ok h
  exact ensures_told (P := Effect r.store _) _ (.workflow (.created habsent))

theorem updateWorkflow_effect (hr : Filed r.store) (ctx : Context) (id : String) (u : Update)
    (expected : Nat) : (updateWorkflow ctx id u expected).Ensures r fun _ r' =>
      Effect r.store (.updateWorkflow id u expected) r'.store := by
  refine Ensures.seq (ensures_ofExcept (fun _ _ => ?_) fun _ _ => .nothing)
  refine Ensures.seq (ensures_asks (fun current hget => ?_) fun _ _ => .nothing)
  refine Ensures.seq (ensures_now fun now => ?_)
  refine Ensures.seq (ensures_ofExcept (fun _ _ => ?_) fun _ _ => .nothing)
  refine Ensures.seq (ensures_onStore (fun w store h => ?_) fun _ _ => .nothing)
  have hcurrent := (Store.getWorkflow_eq_ok hget).2
  obtain ⟨current', hcurrent', rfl, rfl, rfl⟩ := Store.replaceWorkflow_eq_ok h
  have hid : current.id = Text.key id := hr.workflow hcurrent
  cases hcurrent.symm.trans (hid ▸ hcurrent')
  exact ensures_told (P := Effect r.store _) _ (.workflow (.updated hcurrent))

theorem Effect.restored {s t : Store} {c : Command} {id : String} {rev : Revision}
    {expected : Nat} (h : Effect s c t)
    (hc : c = .updateWorkflow (Text.key id) (.ofRevision rev) expected)
    (hrev : rev ∈ s.history (Text.key id)) :
    Effect s (.rollbackWorkflow id rev.version expected) t := by
  cases h with
  | nothing => exact .nothing
  | workflow hw =>
    cases hw with
    | created | restored => cases hc
    | updated hcurrent =>
      injection hc with hid hu hversion
      subst hid hu hversion
      exact .workflow (.restored hrev (Text.key_key id ▸ hcurrent))
  | binding hb => cases hb <;> cases hc
  | removal hdelete => cases hc.symm.trans hdelete

theorem rollbackWorkflow_effect (hr : Filed r.store) (ctx : Context) (id : String)
    (target expected : Nat) : (rollbackWorkflow ctx id target expected).Ensures r fun _ r' =>
      Effect r.store (.rollbackWorkflow id target expected) r'.store := by
  refine Ensures.seq (ensures_ofExcept (fun _ _ => ?_) fun _ _ => .nothing)
  refine Ensures.seq (ensures_asks (fun _ _ => ?_) fun _ _ => .nothing)
  refine Ensures.seq (ensures_asks (fun rev hrev => ?_) fun _ _ => .nothing)
  have hget : r.store.getRevision ctx (Text.key id) target = .ok rev := by
    split at hrev
    · cases hrev
      assumption
    · cases hrev
  obtain ⟨hmem, rfl⟩ := Store.getRevision_mem hget
  exact (updateWorkflow_effect hr ctx _ _ expected).imp fun _ _ h => h.restored rfl hmem

theorem createBinding_effect (ctx : Context) (d : Binding.Draft) :
    (createBinding ctx d).Ensures r fun _ r' => Effect r.store (.createBinding d) r'.store := by
  refine Ensures.seq (ensures_now fun now => Ensures.seq (ensures_fresh fun fresh => ?_))
  refine Ensures.seq (ensures_ofExcept (fun _ _ => ?_) fun _ _ => .nothing)
  refine ensures_onStore (fun b store h => ?_) fun _ _ => .nothing
  obtain ⟨-, h⟩ := Store.insertBinding_eq_ok h
  obtain ⟨rfl, href, -, rfl⟩ := Store.writeBinding_eq_ok h
  exact .binding .created href

theorem updateBinding_effect (hr : Filed r.store) (ctx : Context) (id : String)
    (u : Binding.Update) (expected : Nat) : (updateBinding ctx id u expected).Ensures r fun _ r' =>
      Effect r.store (.updateBinding id u expected) r'.store := by
  refine Ensures.seq (ensures_ofExcept (fun _ _ => ?_) fun _ _ => .nothing)
  refine Ensures.seq (ensures_asks (fun current hget => ?_) fun _ _ => .nothing)
  refine Ensures.seq (ensures_now fun now => ?_)
  refine Ensures.seq (ensures_ofExcept (fun _ _ => ?_) fun _ _ => .nothing)
  refine ensures_onStore (fun b store h => ?_) fun _ _ => .nothing
  have hcurrent := (Store.getBinding_eq_ok hget).2
  obtain ⟨current', hcurrent', rfl, hwrite⟩ := Store.replaceBinding_eq_ok h
  obtain ⟨rfl, href, -, rfl⟩ := Store.writeBinding_eq_ok hwrite
  have hid : current.id = Text.trim id := hr.binding hcurrent
  cases hcurrent.symm.trans (hid ▸ hcurrent')
  exact .binding (.updated hcurrent) href

theorem deleteBinding_effect (ctx : Context) (id : String) :
    (deleteBinding ctx id).Ensures r fun _ r' => Effect r.store (.deleteBinding id) r'.store := by
  refine ensures_onStore (fun _ store h => ?_) fun _ _ => .nothing
  obtain ⟨t, h, heq⟩ := bind_eq_ok.1 h
  cases heq
  cases Store.deleteBinding_eq_ok h
  exact .removal rfl

theorem bindEngine_effect (ctx : Context) :
    (bindEngine ctx).Ensures r fun _ r' => Effect r.store .bindEngine r'.store := by
  refine Ensures.seq (ensures_asks (fun active _ => ?_) fun _ _ => .nothing)
  have hloop : (forM active register).Ensures r fun _ r' => r'.store = r.store :=
    ensures_forM (I := fun r' => r'.store = r.store)
      (fun w _ t ht supply => (store_register w supply t).trans ht) rfl
  refine hloop.bind (fun _ t ht => ?_) fun _ t ht => ?_
  · refine Ensures.seq (ensures_change (ensures_pure ?_))
    rw [ht]
    exact .nothing
  · rw [ht]
    exact .nothing

theorem call_effect (hr : Filed r.store) (ctx : Context) (c : Command) :
    (c.call ctx).Ensures r fun _ r' => Effect r.store c r'.store := by
  cases c with
  | createWorkflow d => exact (createWorkflow_effect ctx d).map _
  | updateWorkflow id u expected => exact (updateWorkflow_effect hr ctx id u expected).map _
  | rollbackWorkflow id target expected =>
    exact (rollbackWorkflow_effect hr ctx id target expected).map _
  | createBinding d => exact (createBinding_effect ctx d).map _
  | updateBinding id u expected => exact (updateBinding_effect hr ctx id u expected).map _
  | deleteBinding id => exact (deleteBinding_effect ctx id).map _
  | bindEngine => exact (bindEngine_effect ctx).map _

end Runtime

end Backoffice.Workflow

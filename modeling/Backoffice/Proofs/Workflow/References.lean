import Backoffice.Proofs.Workflow.Effects
import Backoffice.Proofs.Workflow.Resolution
import Backoffice.Proofs.Workflow.Revisions

namespace Backoffice.Workflow

namespace Store

def Refers (s : Store) (P : Binding → Workflow → Prop) : Prop :=
  ∀ id b, s.bindings.get? id = some b → ∃ w, s.workflows.get? b.workflowId = some w ∧ P b w

variable {s t : Store} {P : Binding → Workflow → Prop}

theorem refers_empty : Refers .empty P := fun _ _ h => by cases h

theorem Refers.write (h : s.Refers P) {w : Workflow}
    (hw : ∀ id b, s.bindings.get? id = some b → b.workflowId = w.id → P b w) :
    (s.write w).Refers P := by
  intro id b hb
  rw [get?_write]
  split
  · rename_i hid
    exact ⟨w, rfl, hw id b hb hid⟩
  · exact h id b hb

theorem Refers.putBinding (h : s.Refers P) {b : Binding} {w : Workflow}
    (hw : s.workflows.get? b.workflowId = some w) (hP : P b w) : (s.putBinding b).Refers P := by
  intro id c hc
  rw [get?_putBinding] at hc
  split at hc
  · cases hc
    exact ⟨w, hw, hP⟩
  · exact h id c hc

theorem Refers.dropBinding (h : s.Refers P) (id : String) : (s.dropBinding id).Refers P := by
  intro id' c hc
  rw [get?_dropBinding] at hc
  split at hc
  · cases hc
  · exact h id' c hc

theorem checkReference_eq_ok {b : Binding} (h : s.checkReference b = .ok ()) :
    ∃ w, s.workflows.get? b.workflowId = some w ∧ (b.active → w.isActive) := by
  unfold checkReference at h
  split at h
  · cases h
  · rename_i w hw
    refine ⟨w, hw, ?_⟩
    split at h
    · cases h
    · simp_all

end Store

open Store (Refers Filed)

def Store.Binds (s : Store) (id : String) : Prop :=
  ∃ i b, s.bindings.get? i = some b ∧ b.active ∧ b.workflowId = id

namespace Runtime

variable {s t : Store} {c : Command} {P : Binding → Workflow → Prop}

def Command.Spares (s : Store) : Command → Prop
  | updateWorkflow id u _ => s.Binds (Text.key id) → ∀ status ∈ u.status, status = .active
  | rollbackWorkflow id target _ => s.Binds (Text.key id) →
    ∀ rev ∈ s.history (Text.key id), rev.version = target → rev.status = .active
  | _ => True

theorem Effect.refers (h : Effect s c t) (hs : s.Refers P)
    (hbinding : ∀ b w, (b.active → w.isActive) → P b w)
    (hworkflow : ∀ w, Writes s c w → ∀ id b, s.bindings.get? id = some b → b.workflowId = w.id →
      P b w) : t.Refers P := by
  cases h with
  | nothing => exact hs
  | workflow hw => exact hs.write (hworkflow _ hw)
  | binding _ hb =>
    obtain ⟨w, hw, hactive⟩ := Store.checkReference_eq_ok hb
    exact hs.putBinding hw (hbinding _ w hactive)
  | removal => exact hs.dropBinding _

theorem Command.Spares.isActive (hc : c.Spares s) (hfiled : Filed s)
    (hs : s.Refers fun b w => b.active → w.isActive) {w : Workflow} (hw : Writes s c w)
    (hbinds : s.Binds w.id) : w.isActive := by
  have hstored : ∀ {key current}, s.workflows.get? key = some current → s.Binds key →
      current.isActive := by
    rintro key current hcurrent ⟨i, b, hb, hactive, rfl⟩
    obtain ⟨old, hold, hwas⟩ := hs i b hb
    cases hold.symm.trans hcurrent
    exact hwas hactive
  cases hw with
  | created habsent =>
    obtain ⟨i, b, hb, -, hid⟩ := hbinds
    obtain ⟨old, hold, -⟩ := hs i b hb
    cases (hid ▸ habsent).symm.trans hold
  | @updated id u current now hcurrent =>
    have hbinds : s.Binds (Text.key id) := hfiled.workflow hcurrent ▸ hbinds
    show (u.status.getD current.status == .active) = true
    cases hstatus : u.status with
    | none => exact hstored hcurrent hbinds
    | some status => exact beq_iff_eq.2 (hc hbinds status hstatus)
  | @restored id rev current now hrev hcurrent =>
    have hbinds : s.Binds (Text.key id) := hfiled.workflow hcurrent ▸ hbinds
    exact beq_iff_eq.2 (hc hbinds rev hrev rfl)

theorem Effect.refers_active (h : Effect s c t) (hfiled : Filed s)
    (hs : s.Refers fun b w => b.active → w.isActive) (hc : c.Spares s) :
    t.Refers fun b w => b.active → w.isActive :=
  h.refers hs (fun _ _ hactive => hactive) fun _ hw id b hb hid hactive =>
    hc.isActive hfiled hs hw ⟨id, b, hb, hactive, hid⟩

/-- Every call along a run spares the active workflows. -/
def Sparing (r : Runtime) : List (Supply × Context × Command) → Prop
  | [] => True
  | (supply, ctx, c) :: rest => c.Spares r.store ∧ Sparing (c.call ctx (supply, r)).2.2 rest

theorem after_refers {r : Runtime} (hfiled : Filed r.store) (hr : r.store.Refers fun _ _ => True)
    (calls : List (Supply × Context × Command)) :
    (r.after calls).store.Refers fun _ _ => True := by
  induction calls generalizing r with
  | nil => exact hr
  | cons call rest ih =>
    obtain ⟨supply, ctx, c⟩ := call
    have heffect := call_effect hfiled ctx c supply
    exact ih (heffect.filed hfiled)
      (heffect.refers hr (fun _ _ _ => trivial) fun _ _ _ _ _ _ => trivial)

theorem after_refers_active {r : Runtime} (hfiled : Filed r.store)
    (hr : r.store.Refers fun b w => b.active → w.isActive)
    (calls : List (Supply × Context × Command)) (hcalls : r.Sparing calls) :
    (r.after calls).store.Refers fun b w => b.active → w.isActive := by
  induction calls generalizing r with
  | nil => exact hr
  | cons call rest ih =>
    obtain ⟨supply, ctx, c⟩ := call
    have heffect := call_effect hfiled ctx c supply
    exact ih (heffect.filed hfiled) (heffect.refers_active hfiled hr hcalls.1) hcalls.2

theorem resolve_mem {r : Runtime} {ctx : Context} {q : Binding.Query} {b : Binding}
    (h : r.resolve ctx q = .ok (some b)) :
    b.active ∧ ∃ id, r.store.bindings.get? id = some b := by
  obtain ⟨bs, hbs, h⟩ := bind_eq_ok.1 h
  obtain ⟨_, -, hbs⟩ := bind_eq_ok.1 hbs
  cases hbs
  obtain ⟨hmem, hactive, -⟩ := Binding.mem_of_resolve (Except.ok.inj h)
  rw [(List.mergeSort_perm _ _).mem_iff, List.mem_filter] at hmem
  exact ⟨hactive, (Dict.mem_values_iff _ _).1 hmem.1⟩

theorem references_valid (calls : List (Supply × Context × Command)) :
    let r := empty.after calls
    (∀ id b, r.store.bindings.get? id = some b →
        ∃ w, r.store.workflows.get? b.workflowId = some w) ∧
      (empty.Sparing calls →
        (∀ id b, r.store.bindings.get? id = some b → b.active →
          ∃ w, r.store.workflows.get? b.workflowId = some w ∧ w.isActive) ∧
        ∀ ctx q b, r.resolve ctx q = .ok (some b) →
          ∃ w, r.store.workflows.get? b.workflowId = some w ∧ w.isActive) := by
  intro r
  constructor
  · intro id b hb
    obtain ⟨w, hw, -⟩ := after_refers Store.filed_empty Store.refers_empty calls id b hb
    exact ⟨w, hw⟩
  · intro hcalls
    have hactive : ∀ id b, r.store.bindings.get? id = some b → b.active →
        ∃ w, r.store.workflows.get? b.workflowId = some w ∧ w.isActive := by
      intro id b hb hb'
      obtain ⟨w, hw, hw'⟩ :=
        after_refers_active Store.filed_empty Store.refers_empty calls hcalls id b hb
      exact ⟨w, hw, hw' hb'⟩
    refine ⟨hactive, ?_⟩
    intro ctx q b hresolve
    obtain ⟨hb', id, hb⟩ := resolve_mem hresolve
    exact hactive id b hb hb'

def review : Draft :=
  ⟨some "review", "Review", some .active, none, ⟨"draft", [⟨"publish", "draft", "live", ""⟩]⟩⟩

def reviewArticles : Binding.Draft :=
  ⟨some "articles", .contentType, some "article", "review", 0, true, none⟩

def bindReview : List (Supply × Context × Command) :=
  [(⟨⟨0, 0⟩, 0⟩, .empty, .createWorkflow review),
    (⟨⟨0, 0⟩, 0⟩, .empty, .createBinding reviewArticles)]

theorem references_valid_bindReview :
    let s := (empty.after bindReview).store
    ∃ b, s.bindings.get? "articles" = some b ∧ b.active ∧
      ∃ w, s.workflows.get? b.workflowId = some w ∧ w.isActive := by
  intro s
  have hstored : (s.bindings.get? "articles").map (·.active) = some true := by decide
  obtain ⟨b, hb, hactive⟩ := Option.map_eq_some_iff.1 hstored
  have hvalid := (references_valid bindReview).2 ⟨trivial, trivial, trivial⟩
  exact ⟨b, hb, hactive, hvalid.1 "articles" b hb hactive⟩

/-- The binding goes on governing articles after its workflow has become a draft. -/
theorem binding_of_draft :
    let r := empty.after (bindReview ++ [(⟨⟨0, 0⟩, 0⟩, .empty,
      .updateWorkflow "review" { Update.none with status := some .draft } 1)])
    ∃ b, r.resolve .empty ⟨"article", [], ""⟩ = .ok (some b) ∧ b.active ∧
      (r.store.workflows.get? b.workflowId).map (·.isActive) = some false := by
  intro r
  have hvalues : r.store.bindings.values = [reviewArticles.binding ⟨0, 0⟩ ""] := by decide
  have hlist : r.store.listBindings .empty { Binding.Filter.all with active := some true } =
      .ok [reviewArticles.binding ⟨0, 0⟩ ""] := by
    rw [Store.listBindings, hvalues]
    exact congrArg Except.ok (List.mergeSort_singleton _)
  have hresolve : Binding.resolve [reviewArticles.binding ⟨0, 0⟩ ""] ⟨"article", [], ""⟩ =
      some (reviewArticles.binding ⟨0, 0⟩ "") := by
    rw [Binding.resolve_eq, Binding.candidates, Binding.inOrder, List.filter_cons_of_pos,
      List.filter_nil, List.mergeSort_singleton]
    · decide
    · decide
  refine ⟨reviewArticles.binding ⟨0, 0⟩ "", ?_, rfl, rfl⟩
  rw [resolve, hlist]
  exact congrArg Except.ok hresolve

end Runtime

end Backoffice.Workflow

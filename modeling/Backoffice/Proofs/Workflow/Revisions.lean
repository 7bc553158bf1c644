import Backoffice.Proofs.Workflow.Steps
import Mathlib.Data.List.Range
import Mathlib.Data.List.Nodup

namespace Backoffice.Workflow

namespace Store

/-- The revisions of `w` are the versions up to its own, the last of them `w` as it stands. -/
structure Recorded (s : Store) (w : Workflow) : Prop where
  numbered : (s.history w.id).map (fun v => (v.workflowId, v.version)) =
    (List.range' 1 w.version).map fun n => (w.id, n)
  latest : (s.history w.id).getLast? = some w.revision

structure Chronicled (s : Store) : Prop where
  recorded : ∀ {id w}, s.workflows.get? id = some w → w.id = id ∧ Recorded s w
  absent : ∀ {id}, s.workflows.get? id = none → s.revisions.get? id = none

def Kept (s t : Store) : Prop := ∀ id, s.history id <+: t.history id

theorem Kept.refl (s : Store) : Kept s s := fun _ => List.prefix_rfl

theorem Kept.trans {s t u : Store} (hst : Kept s t) (htu : Kept t u) : Kept s u :=
  fun id => (hst id).trans (htu id)

def versionAt (s : Store) (id : String) : Nat :=
  match s.workflows.get? id with
  | some w => w.version
  | none => 0

theorem Chronicled.numbered {s : Store} (h : Chronicled s) (id : String) :
    (s.history id).map (fun v => (v.workflowId, v.version)) =
      (List.range' 1 (s.versionAt id)).map fun n => (id, n) := by
  cases hw : s.workflows.get? id with
  | none => simp [versionAt, hw, history, h.absent hw]
  | some w =>
    obtain ⟨rfl, hrec⟩ := h.recorded hw
    simpa [versionAt, hw] using hrec.numbered

theorem chronicled_empty : Chronicled .empty where
  recorded h := by cases h
  absent _ := rfl

section Write

variable {s : Store} (h : Chronicled s) {w : Workflow} (hversion : w.version = s.versionAt w.id + 1)
include h hversion

theorem Chronicled.history_write (id : String) :
    (s.write w).history id =
      if id = w.id then s.history id ++ [w.revision] else s.history id := by
  rw [Store.history_write]
  split
  · rename_i hid
    refine Revision.enter_eq_append fun rev hrev => ?_
    have hmem : (rev.workflowId, rev.version) ∈
        (List.range' 1 (s.versionAt w.id)).map fun n => (w.id, n) := by
      rw [← h.numbered w.id, ← hid]
      exact List.mem_map_of_mem hrev
    obtain ⟨n, hn, hrev⟩ := List.mem_map.1 hmem
    obtain ⟨-, hversion'⟩ := Prod.mk.inj hrev
    rw [List.mem_range'_1] at hn
    change rev.version < w.version
    omega
  · rfl

theorem Chronicled.kept_write : Kept s (s.write w) := by
  intro id
  rw [h.history_write hversion]
  split
  · exact List.prefix_append _ _
  · exact List.prefix_rfl

theorem Chronicled.write : Chronicled (s.write w) := by
  constructor
  case recorded =>
    intro id v hv
    rw [get?_write] at hv
    split at hv
    · rename_i hid
      cases hv
      refine ⟨hid.symm, ?_, ?_⟩
      · rw [h.history_write hversion, if_pos rfl, List.map_append, h.numbered w.id, hversion,
          List.range'_concat, List.map_append]
        simp [revision, hversion, Nat.add_comm]
      · rw [h.history_write hversion, if_pos rfl, List.getLast?_concat]
    · rename_i hid
      obtain ⟨rfl, hrec⟩ := h.recorded hv
      refine ⟨rfl, ?_, ?_⟩
      · rw [h.history_write hversion, if_neg hid, hrec.numbered]
      · rw [h.history_write hversion, if_neg hid, hrec.latest]
  case absent =>
    intro id hnone
    rw [get?_write] at hnone
    split at hnone
    · cases hnone
    · rename_i hid
      exact (Dict.get?_set_ne _ hid _).trans (h.absent hnone)

end Write

theorem Chronicled.withBindings {s : Store} (h : Chronicled s) (bindings : Dict Binding) :
    Chronicled { s with bindings } where
  recorded hw := ⟨(h.recorded hw).1, (h.recorded hw).2.numbered, (h.recorded hw).2.latest⟩
  absent := h.absent

theorem getRevision_eq {s : Store} {ctx : Context} (hctx : ctx.ensureActive = .ok ()) (id : String)
    (v : Nat) : s.getRevision ctx id v =
      match (s.history id).find? (·.version == v) with
      | some rev => .ok rev
      | none => .error (.notFound "workflow revision" (id ++ "@" ++ toString v)) := by
  rw [getRevision, hctx]
  rfl

theorem getRevision_eq_ok {s : Store} {ctx : Context} {id : String} {v : Nat} {rev : Revision}
    (h : s.getRevision ctx id v = .ok rev) :
    ctx.ensureActive = .ok () ∧ (s.history id).find? (·.version == v) = some rev := by
  obtain ⟨_, hctx, h⟩ := bind_eq_ok.1 h
  refine ⟨hctx, ?_⟩
  rw [history]
  split at h
  · cases h
    assumption
  · cases h

theorem Kept.getRevision {s t : Store} (h : Kept s t) {ctx : Context} {id : String} {v : Nat}
    {rev : Revision} (hrev : s.getRevision ctx id v = .ok rev) :
    t.getRevision ctx id v = .ok rev := by
  obtain ⟨hctx, hfind⟩ := getRevision_eq_ok hrev
  obtain ⟨added, hadded⟩ := h id
  rw [getRevision_eq hctx, ← hadded, List.find?_append, hfind]
  rfl

theorem Recorded.versions {s : Store} {w : Workflow} (h : Recorded s w) :
    (s.history w.id).map (·.version) = List.range' 1 w.version := by
  have hversions := congrArg (List.map Prod.snd) h.numbered
  simpa [Function.comp_def] using hversions

theorem Recorded.owner {s : Store} {w : Workflow} (h : Recorded s w) {rev : Revision}
    (hrev : rev ∈ s.history w.id) : rev.workflowId = w.id := by
  have hmem : (rev.workflowId, rev.version) ∈ (List.range' 1 w.version).map fun n => (w.id, n) := by
    rw [← h.numbered]
    exact List.mem_map_of_mem hrev
  obtain ⟨n, -, hn⟩ := List.mem_map.1 hmem
  exact (congrArg Prod.fst hn).symm

theorem Recorded.mem_version {s : Store} {w : Workflow} (h : Recorded s w) {rev : Revision}
    (hrev : rev ∈ s.history w.id) : 1 ≤ rev.version ∧ rev.version ≤ w.version := by
  have hmem : rev.version ∈ List.range' 1 w.version := by
    rw [← h.versions]
    exact List.mem_map_of_mem hrev
  rw [List.mem_range'_1] at hmem
  omega

theorem Recorded.unique {s : Store} {w : Workflow} (h : Recorded s w) {rev rev' : Revision}
    (hrev : rev ∈ s.history w.id) (hrev' : rev' ∈ s.history w.id)
    (hversion : rev.version = rev'.version) : rev = rev' := by
  have hnodup : ((s.history w.id).map (·.version)).Nodup := by
    rw [h.versions]
    exact List.nodup_range'
  exact List.inj_on_of_nodup_map hnodup hrev hrev' hversion

theorem Recorded.eq_revision {s : Store} {w : Workflow} (h : Recorded s w) {rev : Revision}
    (hrev : rev ∈ s.history w.id) (hversion : rev.version = w.version) : rev = w.revision :=
  h.unique hrev (List.mem_of_getLast? h.latest) hversion

/-- What an active caller learns about the history of a workflow. -/
structure Consulted (s : Store) (ctx : Context) (w : Workflow) : Prop where
  listed : ∃ revs, s.listRevisions ctx w.id = .ok revs ∧
    revs.map (·.version) = List.range' 1 w.version ∧ (revs.map (·.version)).Pairwise (· < ·) ∧
    ∀ rev ∈ revs, rev.workflowId = w.id
  found : ∀ v, 1 ≤ v → v ≤ w.version →
    ∃ rev, s.getRevision ctx w.id v = .ok rev ∧ rev.workflowId = w.id ∧ rev.version = v
  missing : ∀ v rev, s.getRevision ctx w.id v = .ok rev → 1 ≤ v ∧ v ≤ w.version
  latest : s.getRevision ctx w.id w.version = .ok w.revision

theorem Recorded.consulted {s : Store} {w : Workflow} (h : Recorded s w) {ctx : Context}
    (hctx : ctx.ensureActive = .ok ()) (hw : s.workflows.get? w.id = some w) :
    Consulted s ctx w := by
  have hfound : ∀ v, 1 ≤ v → v ≤ w.version →
      ∃ rev ∈ s.history w.id, rev.version = v ∧ s.getRevision ctx w.id v = .ok rev := by
    intro v h1 h2
    have hv : v ∈ (s.history w.id).map (·.version) := by
      rw [h.versions, List.mem_range'_1]
      omega
    obtain ⟨rev, hrev, hversion⟩ := List.mem_map.1 hv
    rw [getRevision_eq hctx]
    cases hfind : (s.history w.id).find? (·.version == v) with
    | none => exact absurd (beq_iff_eq.2 hversion) (List.find?_eq_none.1 hfind rev hrev)
    | some rev' =>
      have hversion' := List.find?_some hfind
      exact ⟨rev', List.mem_of_find?_eq_some hfind, beq_iff_eq.1 hversion', rfl⟩
  constructor
  case listed =>
    refine ⟨s.history w.id, ?_, h.versions, ?_, fun rev hrev => h.owner hrev⟩
    · rw [listRevisions, getWorkflow, hctx, hw]
      rfl
    · rw [h.versions]
      exact List.pairwise_lt_range'
  case found =>
    intro v h1 h2
    obtain ⟨rev, hrev, hversion, hget⟩ := hfound v h1 h2
    exact ⟨rev, hget, h.owner hrev, hversion⟩
  case missing =>
    intro v rev hget
    obtain ⟨-, hfind⟩ := getRevision_eq_ok hget
    have hversion := List.find?_some hfind
    rw [← beq_iff_eq.1 hversion]
    exact h.mem_version (List.mem_of_find?_eq_some hfind)
  case latest =>
    have hlast : w.revision ∈ s.history w.id := List.mem_of_getLast? h.latest
    have hbounds := h.mem_version hlast
    obtain ⟨rev, hrev, hversion, hget⟩ := hfound w.version hbounds.1 hbounds.2
    rw [h.eq_revision hrev hversion] at hget
    exact hget

end Store

namespace Runtime

open Store (Chronicled Kept Recorded)

theorem Allowed.version {r r' : Runtime} {v w : Workflow}
    (h : Allowed (.workflow v (.ok w)) r r') : w.version = r.store.versionAt w.id + 1 := by
  cases h with
  | workflowInserted habsent hone => rw [hone, Store.versionAt, habsent]
  | workflowReplaced hcurrent hstored =>
    subst hstored
    rw [Store.versionAt, hcurrent]

theorem Allowed.chronicles {e : Event} {r r' : Runtime} (hr : Chronicled r.store)
    (h : Allowed e r r') : Chronicled r'.store ∧ Kept r.store r'.store := by
  cases h with
  | looked | read | workflowRefused | bindingRefused | notRemoved => exact ⟨hr, Kept.refl _⟩
  | engine hstore =>
    rw [hstore]
    exact ⟨hr, Kept.refl _⟩
  | workflowInserted habsent hone =>
    have hversion := (Allowed.workflowInserted habsent hone).version
    exact ⟨hr.write hversion, hr.kept_write hversion⟩
  | workflowReplaced hcurrent hstored =>
    have hversion := (Allowed.workflowReplaced hcurrent hstored).version
    exact ⟨hr.write hversion, hr.kept_write hversion⟩
  | bindingWritten => exact ⟨hr.withBindings _, Kept.refl _⟩
  | removed => exact ⟨hr.withBindings _, Kept.refl _⟩

def historyContract : Contract Event Runtime where
  Inv r := Chronicled r.store
  Rely r r' := Kept r.store r'.store
  Guar := Allowed
  refl r := Kept.refl r.store
  trans := Kept.trans
  keeps := Allowed.chronicles

/-- The runtime after calls one after the other, whether they succeed or fail; each finds clock and
identifiers as they may be. -/
def after (r : Runtime) : List (Supply × Context × Command) → Runtime
  | [] => r
  | (supply, ctx, c) :: rest => after (c.call ctx (supply, r)).2.2 rest

theorem after_chronicles {r : Runtime} (hr : Chronicled r.store)
    (calls : List (Supply × Context × Command)) :
    Chronicled (r.after calls).store ∧ Kept r.store (r.after calls).store := by
  induction calls generalizing r with
  | nil => exact ⟨hr, Kept.refl _⟩
  | cons call rest ih =>
    obtain ⟨supply, ctx, c⟩ := call
    have hkeeps : (process ctx c).Keeps historyContract r :=
      Process.Keeps.of_free (keeps_process ctx c r)
    have hcall := hkeeps.run supply hr
    rw [run_process] at hcall
    obtain ⟨hr', hkept⟩ := ih hcall.1
    exact ⟨hr', hcall.2.trans hkept⟩

theorem revisions_complete (past later : List (Supply × Context × Command)) :
    let s := (empty.after past).store
    let t := ((empty.after past).after later).store
    (∀ id w, s.workflows.get? id = some w → w.id = id ∧ Recorded s w ∧
        ∀ ctx, ctx.ensureActive = .ok () → s.Consulted ctx w) ∧
      (∀ id, s.workflows.get? id = none → s.revisions.get? id = none) ∧
      (∀ id, s.history id <+: t.history id) ∧
      ∀ ctx id v rev, s.getRevision ctx id v = .ok rev → t.getRevision ctx id v = .ok rev := by
  intro s t
  have hpast : Chronicled s := (after_chronicles Store.chronicled_empty past).1
  have hkept : Kept s t := (after_chronicles hpast later).2
  refine ⟨?_, fun id => hpast.absent, hkept, fun ctx id v rev => hkept.getRevision⟩
  intro id w hw
  obtain ⟨rfl, hrec⟩ := hpast.recorded hw
  exact ⟨rfl, hrec, fun ctx hctx => hrec.consulted hctx hw⟩

end Runtime

end Backoffice.Workflow

import Backoffice.Proofs.Workflow.Soundness

namespace Backoffice.Workflow

structure Hereditary (W : Workflow → Prop) : Prop where
  drawn : ∀ {d : Draft} {now : Instant} {n : Nat},
    (d.workflow now (Supply.identifier n)).validate = .ok () →
      W (d.workflow now (Supply.identifier n))
  changed : ∀ {u : Update} {now : Instant} {w : Workflow}, W w →
    (u.applyTo now w).validate = .ok () → W (u.applyTo now w)
  stamped : ∀ {w : Workflow}, W w → ∀ version createdAt, W { w with version, createdAt }

theorem hereditary_sound : Hereditary Sound where
  drawn := Draft.sound
  changed hw := Update.sound _ hw
  stamped := Sound.stamped

variable {W : Workflow → Prop}

namespace Store

def Rows (W : Workflow → Prop) (s : Store) : Prop := ∀ id w, s.workflows.get? id = some w → W w

def Pasts (W : Workflow → Prop) (s : Store) : Prop :=
  ∀ id, ∀ rev ∈ s.history id, ∃ w, W w ∧ w.revision = rev

theorem rows_empty : Rows W .empty := fun _ _ h => by cases h

theorem pasts_empty : Pasts W .empty := fun _ _ h => by cases h

theorem Rows.write {s : Store} (hs : s.Rows W) {w : Workflow} (hw : W w) : (s.write w).Rows W := by
  intro id v hv
  rw [get?_write] at hv
  split at hv
  · cases hv
    exact hw
  · exact hs id v hv

theorem Pasts.write {s : Store} (hs : s.Pasts W) {w : Workflow} (hw : W w) :
    (s.write w).Pasts W := by
  intro id rev hrev
  rw [history_write] at hrev
  split at hrev
  · rcases Revision.mem_enter hrev with rfl | hrev
    · exact ⟨w, hw, rfl⟩
    · exact hs id rev hrev
  · exact hs id rev hrev

end Store

namespace Runtime

open Store (Chronicled Kept)

def Writing (W : Workflow → Prop) (e : Event) (r r' : Runtime) : Prop :=
  Allowed e r r' ∧ ∀ c w, e = .workflow c (.ok w) → W w

theorem Writing.carry {I : Store → Prop} (hwrite : ∀ {s w}, I s → W w → I (s.write w))
    (hbindings : ∀ {s : Store} {bindings}, I s → I { s with bindings }) {e : Event} {r r' : Runtime}
    (h : Writing W e r r') (hr : I r.store) : I r'.store := by
  obtain ⟨hallowed, hw⟩ := h
  cases hallowed with
  | looked | read | workflowRefused | bindingRefused | notRemoved => exact hr
  | engine hstore =>
    rw [hstore]
    exact hr
  | workflowInserted | workflowReplaced => exact hwrite hr (hw _ _ rfl)
  | bindingWritten | removed => exact hbindings hr

theorem Writing.keeps {e : Event} {r r' : Runtime}
    (hr : r.store.Rows W ∧ Chronicled r.store) (h : Writing W e r r') :
    (r'.store.Rows W ∧ Chronicled r'.store) ∧ Kept r.store r'.store := by
  obtain ⟨hchronicled, hkept⟩ := h.1.chronicles hr.2
  exact ⟨⟨h.carry (fun hs hw => hs.write hw) (fun hs => hs) hr.1, hchronicled⟩, hkept⟩

def writingContract (W : Workflow → Prop) : Contract Event Runtime :=
  { historyContract with
    Inv := fun r => r.store.Rows W ∧ Chronicled r.store
    Guar := Writing W
    keeps := Writing.keeps }

variable {α : Type}

theorem writing_looking {c : Call Runtime α} (hc : c.Quiet) {Q : Except Fault α → Prop}
    (hQ : ∀ supply t, t.store.Rows W → Q (c (supply, t)).1) (r : Runtime) :
    (looking c).Meets (writingContract W) (fun x _ => Q x) r := by
  apply Process.meets_atomically
  intro supply t ht _
  rw [hc (supply, t)]
  exact ⟨⟨.looked, fun _ _ h => by cases h⟩, hQ supply t ht.1⟩

theorem writing_onStore {f : Store → Except Fault (Workflow × Store)} {w : Workflow}
    (hf : ∀ (t : Runtime) v store, f t.store = .ok (v, store) →
      Allowed (.workflow w (.ok v)) t { t with store } ∧ W v) (r : Runtime) :
    (Process.atomically (onStore f) (Event.workflow w)).Keeps (writingContract W) r := by
  apply Process.meets_atomically
  intro supply t _ _
  refine ⟨?_, trivial⟩
  rw [onStore_apply]
  cases h : f t.store with
  | error f => exact ⟨.workflowRefused, fun _ _ h => by cases h⟩
  | ok x =>
    obtain ⟨v, store⟩ := x
    obtain ⟨hallowed, hv⟩ := hf t v store h
    refine ⟨hallowed, fun c u h => ?_⟩
    cases h
    exact hv

theorem writing_followSteps (w : Workflow) (r : Runtime) :
    (followSteps w).Keeps (writingContract W) r := by
  refine Process.Keeps.bind ?_ fun _ _ => trivial
  exact Process.meets_atomically fun supply t _ _ =>
    ⟨⟨.engine (store_follow w supply t), fun _ _ h => by cases h⟩, trivial⟩

variable (hW : Hereditary W)
include hW

theorem writing_createWorkflowSteps (ctx : Context) (d : Draft) (r : Runtime) :
    (createWorkflowSteps ctx d).Keeps (writingContract W) r := by
  have hdraw := writing_looking (W := W) (Q := fun x => ∀ w, x = .ok w → W w ∧ w.version = 1)
    (quiet_drawing d.workflow Workflow.validate) (by
      intro supply t _ w hw
      obtain ⟨now, n, hfst⟩ := drawing_identifier d.workflow Workflow.validate (supply, t)
      rw [hfst] at hw
      obtain ⟨_, hvalid, hw⟩ := bind_eq_ok.1 hw
      cases hw
      exact ⟨hW.drawn hvalid, rfl⟩) r
  refine Process.Meets.bind hdraw ?_ fun _ _ _ => trivial
  intro w t hw
  obtain ⟨hw, hone⟩ := hw w rfl
  refine Process.Keeps.bind (writing_onStore (fun t v store h => ?_) t) writing_followSteps
  obtain ⟨rfl, habsent, rfl⟩ := Store.insertWorkflow_eq_ok h
  exact ⟨.workflowInserted habsent hone, hw⟩

theorem writing_updateWorkflowSteps (ctx : Context) (id : String) (u : Update) (expected : Nat)
    (r : Runtime) : (updateWorkflowSteps ctx id u expected).Keeps (writingContract W) r := by
  have hread := writing_looking (W := W) (Q := fun x => ∀ row, x = .ok row → W row)
    (quiet_reading expected (·.getWorkflow ctx (Text.key id))) (by
      intro supply t ht row hrow
      rw [reading_fst] at hrow
      obtain ⟨_, -, hget⟩ := bind_eq_ok.1 hrow
      exact ht _ row (Store.getWorkflow_eq_ok hget).2) r
  refine Process.Meets.bind hread ?_ fun _ _ _ => trivial
  intro row t hrow
  have hchange := writing_looking (W := W) (Q := fun x => ∀ w, x = .ok w → W w)
    (quiet_changing (u.applyTo · row) Workflow.validate) (by
      intro supply t _ w hw
      obtain ⟨now, hfst⟩ := changing_fst (u.applyTo · row) Workflow.validate (supply, t)
      rw [hfst] at hw
      obtain ⟨_, hvalid, hw⟩ := bind_eq_ok.1 hw
      cases hw
      exact hW.changed (hrow row rfl) hvalid) t
  refine Process.Meets.bind hchange ?_ fun _ _ _ => trivial
  intro w t hw
  refine Process.Keeps.bind (writing_onStore (fun t v store h => ?_) t) writing_followSteps
  obtain ⟨current, hcurrent, -, rfl, rfl⟩ := Store.replaceWorkflow_eq_ok h
  exact ⟨.workflowReplaced hcurrent rfl, hW.stamped (hw w rfl) _ _⟩

omit hW in
theorem unwritten {c : Call Runtime α} {shown : Except Fault α → Event}
    (h : ∀ x c w, shown x ≠ .workflow c (.ok w)) (r : Runtime) :
    (Process.atomically c shown).Keeps (.free fun e _ _ => ∀ c w, e ≠ .workflow c (.ok w)) r :=
  fun _ _ _ _ => ⟨h _, trivial⟩

omit hW in
theorem writing_of_unwritten {p : Process Event Runtime α} {r : Runtime}
    (hp : p.Keeps (.free Allowed) r)
    (hnone : p.Keeps (.free fun e _ _ => ∀ c w, e ≠ .workflow c (.ok w)) r) :
    p.Keeps (writingContract W) r :=
  .of_free ((hp.and hnone).weaken (fun h => h) (fun h => h)
    fun h => ⟨h.1, fun c w he => absurd he (h.2 c w)⟩)

theorem writing_process (ctx : Context) (c : Command) (r : Runtime) :
    (process ctx c).Keeps (writingContract W) r := by
  cases c with
  | createWorkflow d => exact (writing_createWorkflowSteps hW ctx d r).map _
  | updateWorkflow id u expected =>
    exact (writing_updateWorkflowSteps hW ctx id u expected r).map _
  | rollbackWorkflow id target expected =>
    apply Process.Keeps.map
    refine Process.Keeps.bind (writing_looking (quiet_reading _ _) (fun _ _ _ => trivial) r) ?_
    intro _ t
    refine Process.Keeps.bind (writing_looking (Call.quiet_asks _) (fun _ _ _ => trivial) t) ?_
    intro revision t
    exact writing_updateWorkflowSteps hW ctx _ _ expected t
  | createBinding d =>
    refine writing_of_unwritten (keeps_process ctx (.createBinding d) r) (Process.Keeps.map ?_ _)
    exact (unwritten (fun _ _ _ => Event.noConfusion) r).bind fun _ =>
      unwritten fun _ _ _ => Event.noConfusion
  | updateBinding id u expected =>
    refine writing_of_unwritten (keeps_process ctx (.updateBinding id u expected) r)
      (Process.Keeps.map ?_ _)
    exact (unwritten (fun _ _ _ => Event.noConfusion) r).bind fun _ t =>
      (unwritten (fun _ _ _ => Event.noConfusion) t).bind fun _ =>
        unwritten fun _ _ _ => Event.noConfusion
  | deleteBinding id =>
    refine writing_of_unwritten (keeps_process ctx (.deleteBinding id) r) (Process.Keeps.map ?_ _)
    exact unwritten (fun _ _ _ => Event.noConfusion) r
  | bindEngine =>
    refine writing_of_unwritten (keeps_process ctx .bindEngine r) (Process.Keeps.map ?_ _)
    refine (unwritten (fun _ _ _ => Event.noConfusion) r).bind fun active t => ?_
    have hloop := Process.keeps_forM (f := fun w => Process.atomically (register w) fun _ =>
      Event.engine) (fun _ => unwritten fun _ _ _ => Event.noConfusion) active t
    refine hloop.bind fun _ t => ?_
    exact (unwritten (fun _ _ _ => Event.noConfusion) t).bind fun _ _ => trivial

omit hW in
def reached (e : Engine) (calls : List (Context × Command)) (supply : Supply)
    (turns : List Turn) : Runtime :=
  World.state (World.play ⟨calls.map fun c => process c.1 c.2, supply, { empty with engine := e }⟩
    turns).2

theorem reached_written (e : Engine) (calls : List (Context × Command)) (supply : Supply)
    (turns : List Turn) :
    let s := (reached e calls supply turns).store
    s.Rows W ∧ s.Pasts W ∧ Chronicled s := by
  have hstart : (writingContract W).Inv { empty with engine := e } :=
    ⟨Store.rows_empty, Store.chronicled_empty⟩
  have hrun := World.play_allowed (C := writingContract W)
    (⟨calls.map fun c => process c.1 c.2, supply, { empty with engine := e }⟩ :
      World Event Runtime Answer) turns hstart (by
      intro p hp
      obtain ⟨c, -, rfl⟩ := List.mem_map.1 hp
      exact writing_process hW c.1 c.2 _)
  obtain ⟨hrows, hchronicled⟩ := (hrun.keeps hstart).1
  refine ⟨hrows, ?_, hchronicled⟩
  exact (hrun.invariant hstart (I := fun r => r.store.Pasts W) Store.pasts_empty
    fun _ h hr => h.carry (fun hs hw => hs.write hw) (fun hs => hs) hr).1

end Runtime

end Backoffice.Workflow

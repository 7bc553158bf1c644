import Backoffice.Proofs.Workflow.References
import Backoffice.Proofs.Workflow.Soundness

namespace Backoffice.Workflow

namespace Store

/-- The last active revision under an id, from version `since` on. -/
def lastActive (s : Store) (id : String) (since : Nat) : Option Revision :=
  ((s.history id).filter fun rev => since ≤ rev.version && rev.status == .active).getLast?

theorem revision_counts (w : Workflow) (since : Nat) :
    (since ≤ w.revision.version && w.revision.status == .active) =
      (decide (since ≤ w.version) && w.isActive) := rfl

theorem Chronicled.lastActive_write {s : Store} (h : Chronicled s) {w : Workflow}
    (hversion : w.version = s.versionAt w.id + 1) (id : String) (since : Nat) :
    (s.write w).lastActive id since =
      if id = w.id ∧ since ≤ w.version ∧ w.isActive then some w.revision
      else s.lastActive id since := by
  unfold lastActive
  rw [h.history_write hversion]
  by_cases hid : id = w.id
  · rw [if_pos hid, List.filter_append, List.filter_singleton, revision_counts]
    by_cases hlast : since ≤ w.version ∧ w.isActive
    · simp [hid, hlast]
    · have hnot : (decide (since ≤ w.version) && w.isActive) = false := by simpa using hlast
      simp [hnot, hlast]
  · rw [if_neg hid, if_neg fun h => hid h.1]

theorem versionAt_write (s : Store) (w : Workflow) (id : String) :
    (s.write w).versionAt id = if id = w.id then w.version else s.versionAt id := by
  unfold versionAt
  rw [get?_write]
  by_cases hid : id = w.id
  · rw [if_pos hid, if_pos hid]
  · rw [if_neg hid, if_neg hid]

variable {s : Store} {w : Workflow}

theorem Recorded.lastActive_of_active (h : Recorded s w) (hactive : w.isActive) {since : Nat}
    (hsince : since ≤ w.version) : s.lastActive w.id since = some w.revision := by
  obtain ⟨earlier, hhistory⟩ := List.getLast?_eq_some_iff.1 h.latest
  rw [lastActive, hhistory, List.filter_append, List.filter_singleton, revision_counts, hactive,
    decide_eq_true hsince]
  exact List.getLast?_concat ..

theorem Chronicled.lastActive_present (h : Chronicled s) (id : String) :
    s.lastActive id (s.versionAt id) =
      ((s.workflows.get? id).filter (·.isActive)).map (·.revision) := by
  cases hw : s.workflows.get? id with
  | none => simp [lastActive, history, h.absent hw]
  | some w =>
    obtain ⟨rfl, hrec⟩ := h.recorded hw
    rw [versionAt, hw]
    dsimp only
    by_cases hactive : w.isActive
    · rw [hrec.lastActive_of_active hactive le_rfl, Option.filter_some_pos hactive]
      rfl
    · rw [Option.filter_some_neg (Bool.eq_false_iff.2 hactive), Option.map_none, lastActive,
        List.getLast?_eq_none_iff, List.filter_eq_nil_iff]
      intro rev hrev hkept
      rw [Bool.and_eq_true, decide_eq_true_eq] at hkept
      have hversion : rev.version = w.version := le_antisymm (hrec.mem_version hrev).2 hkept.1
      rw [hrec.eq_revision hrev hversion] at hkept
      exact hactive hkept.2

def actives (s : Store) : List Workflow :=
  s.workflows.values.filter (·.isActive)

theorem listWorkflows_active {ctx : Context} (hctx : ctx.ensureActive = .ok ()) (s : Store) :
    s.listWorkflows ctx { Filter.all with status := some .active } = .ok s.actives := by
  have haccepts : ({ Filter.all with status := some .active } : Filter).accepts = (·.isActive) := by
    funext w
    cases hstatus : w.status <;> simp [Filter.accepts, Filter.all, isActive, hstatus]
  rw [listWorkflows, hctx, haccepts]
  rfl

theorem Chronicled.getLast?_actives (h : Chronicled s) (id : String) :
    (s.actives.filter (·.id == id)).getLast? = (s.workflows.get? id).filter (·.isActive) := by
  have hmem : ∀ w, w ∈ s.actives.filter (·.id == id) ↔
      s.workflows.get? id = some w ∧ w.isActive := by
    intro w
    simp only [actives, List.mem_filter, Dict.mem_values_iff, beq_iff_eq]
    constructor
    · rintro ⟨⟨⟨key, hw⟩, hactive⟩, rfl⟩
      exact ⟨(h.recorded hw).1 ▸ hw, hactive⟩
    · rintro ⟨hw, hactive⟩
      exact ⟨⟨⟨id, hw⟩, hactive⟩, (h.recorded hw).1⟩
  cases hlast : (s.actives.filter (·.id == id)).getLast? with
  | some w =>
    obtain ⟨hw, hactive⟩ := (hmem w).1 (List.mem_of_getLast? hlast)
    rw [hw, Option.filter_some_pos hactive]
  | none =>
    rw [List.getLast?_eq_none_iff] at hlast
    cases hw : s.workflows.get? id with
    | none => rfl
    | some w =>
      refine (Option.filter_some_neg (Bool.eq_false_iff.2 fun hactive => ?_)).symm
      have hnil := (hmem w).2 ⟨hw, hactive⟩
      rw [hlast] at hnil
      cases hnil

end Store

namespace Runtime

open Store (Chronicled Recorded)
open Call (Ensures ensures_now ensures_identifier ensures_ofExcept ensures_asks)

inductive Carries (r : Runtime) : Runtime → Prop
  | nothing : Carries r r
  | workflow {w : Workflow} : w.Sound → w.version = r.store.versionAt w.id + 1 →
      Carries r ({ r with store := r.store.write w }.told w)
  | bindings (bindings : Dict Binding) : Carries r { r with store := { r.store with bindings } }
  | engine : Carries r
      { r with engine := r.store.actives.foldl Engine.put r.engine, bound := true }

variable {r r' : Runtime}

inductive Ends {α : Type} (r : Runtime) : Except Fault α → Runtime → Prop
  | done {a : α} {r' : Runtime} : Carries r r' → Ends r (.ok a) r'
  | failed {f : Fault} : Ends r (.error f) r

variable {α β : Type}

theorem Ends.carries {x : Except Fault α} (h : Ends r x r') : Carries r r' := by
  cases h with
  | done h => exact h
  | failed => exact .nothing

theorem Ends.map (f : α → β) {c : Call Runtime α} (h : c.Ensures r (Ends r)) :
    (f <$> c).Ensures r (Ends r) := by
  refine Ensures.map f (h.imp fun x r' h => ?_)
  cases h with
  | done h => exact .done h
  | failed => exact .failed

theorem ensures_following {w : Workflow} (hw : w.Sound)
    {P : Except Fault Workflow → Runtime → Prop} (h : P (.ok w) (r.told w)) :
    (do follow w; pure w : Call Runtime Workflow).Ensures r P := by
  intro supply
  rw [Call.bind_apply_ok (follow_apply hw supply r)]
  exact h

theorem createWorkflow_ends (ctx : Context) (d : Draft) :
    (createWorkflow ctx d).Ensures r (Ends r) := by
  refine Ensures.seq (ensures_now fun now => Ensures.seq (ensures_identifier fun n => ?_))
  refine Ensures.seq (ensures_ofExcept (fun _ hvalid => ?_) fun _ _ => .failed)
  refine Ensures.seq (ensures_onStore (fun w store h => ?_) fun _ _ => .failed)
  obtain ⟨rfl, habsent, rfl⟩ := Store.insertWorkflow_eq_ok h
  have hsound := Draft.sound hvalid
  refine ensures_following hsound (.done (.workflow hsound ?_))
  rw [Store.versionAt, habsent]
  rfl

theorem updateWorkflow_ends (hr : r.store.Sound) (ctx : Context) (id : String) (u : Update)
    (expected : Nat) : (updateWorkflow ctx id u expected).Ensures r (Ends r) := by
  refine Ensures.seq (ensures_ofExcept (fun _ _ => ?_) fun _ _ => .failed)
  refine Ensures.seq (ensures_asks (fun row hget => ?_) fun _ _ => .failed)
  refine Ensures.seq (ensures_now fun now => ?_)
  refine Ensures.seq (ensures_ofExcept (fun _ hvalid => ?_) fun _ _ => .failed)
  refine Ensures.seq (ensures_onStore (fun w store h => ?_) fun _ _ => .failed)
  obtain ⟨current, hcurrent, -, rfl, rfl⟩ := Store.replaceWorkflow_eq_ok h
  have hsound := (u.sound (hr _ _ (Store.getWorkflow_eq_ok hget).2) hvalid).stamped
    (current.version + 1) current.createdAt
  refine ensures_following hsound (.done (.workflow hsound ?_))
  rw [Store.versionAt, hcurrent]

theorem rollbackWorkflow_ends (hr : r.store.Sound) (ctx : Context) (id : String)
    (target expected : Nat) :
    (rollbackWorkflow ctx id target expected).Ensures r (Ends r) := by
  refine Ensures.seq (ensures_ofExcept (fun _ _ => ?_) fun _ _ => .failed)
  refine Ensures.seq (ensures_asks (fun _ _ => ?_) fun _ _ => .failed)
  refine Ensures.seq (ensures_asks (fun rev _ => ?_) fun _ _ => .failed)
  exact updateWorkflow_ends hr ctx _ _ expected

theorem createBinding_ends (ctx : Context) (d : Binding.Draft) :
    (createBinding ctx d).Ensures r (Ends r) := by
  refine Ensures.seq (ensures_now fun now => Ensures.seq (ensures_identifier fun n => ?_))
  refine Ensures.seq (ensures_ofExcept (fun _ _ => ?_) fun _ _ => .failed)
  refine ensures_onStore (fun b store h => ?_) fun _ _ => .failed
  obtain ⟨-, h⟩ := Store.insertBinding_eq_ok h
  obtain ⟨-, -, -, rfl⟩ := Store.writeBinding_eq_ok h
  exact .done (.bindings _)

theorem updateBinding_ends (ctx : Context) (id : String) (u : Binding.Update) (expected : Nat) :
    (updateBinding ctx id u expected).Ensures r (Ends r) := by
  refine Ensures.seq (ensures_ofExcept (fun _ _ => ?_) fun _ _ => .failed)
  refine Ensures.seq (ensures_asks (fun _ _ => ?_) fun _ _ => .failed)
  refine Ensures.seq (ensures_now fun now => ?_)
  refine Ensures.seq (ensures_ofExcept (fun _ _ => ?_) fun _ _ => .failed)
  refine ensures_onStore (fun b store h => ?_) fun _ _ => .failed
  obtain ⟨_, -, -, h⟩ := Store.replaceBinding_eq_ok h
  obtain ⟨-, -, -, rfl⟩ := Store.writeBinding_eq_ok h
  exact .done (.bindings _)

theorem deleteBinding_ends (ctx : Context) (id : String) :
    (deleteBinding ctx id).Ensures r (Ends r) := by
  refine ensures_onStore (fun _ store h => ?_) fun _ _ => .failed
  obtain ⟨t, h, heq⟩ := bind_eq_ok.1 h
  cases heq
  cases Store.deleteBinding_eq_ok h
  exact .done (.bindings _)

theorem forM_register {ws : List Workflow} (hws : ∀ w ∈ ws, w.Sound) (supply : Supply)
    (r : Runtime) : (forM ws register : Call Runtime PUnit) (supply, r) =
      (.ok (), supply, { r with engine := ws.foldl Engine.put r.engine }) := by
  induction ws generalizing r with
  | nil => rfl
  | cons w ws ih =>
    rw [List.forM_cons, Call.bind_apply_ok (register_apply (hws w List.mem_cons_self) supply r)]
    exact ih (fun v hv => hws v (List.mem_cons_of_mem w hv)) _

theorem bindEngine_apply (hr : r.store.Sound) {ctx : Context} (hctx : ctx.ensureActive = .ok ())
    (supply : Supply) : bindEngine ctx (supply, r) = (.ok r.store.actives.length, supply,
      { r with engine := r.store.actives.foldl Engine.put r.engine, bound := true }) := by
  have hsound : ∀ w ∈ r.store.actives, w.Sound := by
    intro w hw
    obtain ⟨id, hid⟩ := (Dict.mem_values_iff _ _).1 (List.mem_filter.1 hw).1
    exact hr id w hid
  have hlist : (Call.asks fun r : Runtime =>
      r.store.listWorkflows ctx { Filter.all with status := some .active }) (supply, r) =
        (.ok r.store.actives, supply, r) := by
    rw [Call.asks_apply]
    exact congrArg (·, supply, r) (Store.listWorkflows_active hctx r.store)
  rw [bindEngine, Call.bind_apply_ok hlist]
  exact Call.bind_apply_ok (forM_register hsound supply r) _

theorem bindEngine_ends (hr : r.store.Sound) (ctx : Context) :
    (bindEngine ctx).Ensures r (Ends r) := by
  cases hctx : ctx.ensureActive with
  | ok _ =>
    intro supply
    rw [bindEngine_apply hr hctx]
    exact .done .engine
  | error f =>
    refine Ensures.seq (ensures_asks (fun active hlist => ?_) fun _ _ => .failed)
    obtain ⟨_, hactive, -⟩ := bind_eq_ok.1 hlist
    cases hctx.symm.trans hactive

theorem call_ends (hr : r.store.Sound) (ctx : Context) (c : Command) :
    (c.call ctx).Ensures r (Ends r) := by
  cases c with
  | createWorkflow d => exact Ends.map _ (createWorkflow_ends ctx d)
  | updateWorkflow id u expected => exact Ends.map _ (updateWorkflow_ends hr ctx id u expected)
  | rollbackWorkflow id target expected =>
    exact Ends.map _ (rollbackWorkflow_ends hr ctx id target expected)
  | createBinding d => exact Ends.map _ (createBinding_ends ctx d)
  | updateBinding id u expected => exact Ends.map _ (updateBinding_ends ctx id u expected)
  | deleteBinding id => exact Ends.map _ (deleteBinding_ends ctx id)
  | bindEngine => exact Ends.map _ (bindEngine_ends hr ctx)

theorem call_carries (hr : r.store.Sound) (ctx : Context) (c : Command) :
    (c.call ctx).Ensures r fun _ r' => Carries r r' :=
  (call_ends hr ctx c).imp fun _ _ h => h.carries

theorem store_told (r : Runtime) (w : Workflow) : (r.told w).store = r.store := by
  unfold told
  split <;> rfl

theorem Carries.sound (h : Carries r r') (hr : r.store.Sound) : r'.store.Sound := by
  cases h with
  | nothing | bindings | engine => exact hr
  | workflow hw =>
    rw [store_told]
    exact hr.write hw

theorem after_sound (hr : r.store.Sound) (calls : List (Supply × Context × Command)) :
    (r.after calls).store.Sound := by
  induction calls generalizing r with
  | nil => exact hr
  | cons call rest ih => exact ih ((call_carries hr call.2.1 call.2.2 call.1).sound hr)

structure Follows (s : Store) (e : Engine) (r : Runtime) : Prop where
  bound : r.bound = true
  sound : r.store.Sound
  chronicled : Chronicled r.store
  grown : ∀ id, s.versionAt id ≤ r.store.versionAt id
  held : ∀ id, r.engine.definitions.get? id =
    ((r.store.lastActive id (s.versionAt id)).map (·.definition)).or (e.definitions.get? id)

theorem follows_bound {s : Store} (hs : s.Sound) (hchronicled : Chronicled s) (e : Engine) :
    Follows s e ⟨s, s.actives.foldl Engine.put e, true⟩ where
  bound := rfl
  sound := hs
  chronicled := hchronicled
  grown _ := le_rfl
  held id := by
    rw [Engine.get?_foldl_put, hchronicled.getLast?_actives, hchronicled.lastActive_present,
      Option.map_map]
    rfl

variable {s : Store} {e : Engine}

theorem Follows.since (h : Follows s e r) {id : String} {w : Workflow}
    (hw : r.store.workflows.get? id = some w) : s.versionAt id ≤ w.version := by
  have hgrown := h.grown id
  unfold Store.versionAt at hgrown ⊢
  rwa [hw] at hgrown

theorem Follows.told (h : Follows s e r) {w : Workflow} (hw : w.Sound)
    (hversion : w.version = r.store.versionAt w.id + 1) :
    Follows s e ({ r with store := r.store.write w }.told w) where
  bound := by
    unfold Runtime.told
    split <;> exact h.bound
  sound := by
    rw [store_told]
    exact h.sound.write hw
  chronicled := by
    rw [store_told]
    exact h.chronicled.write hversion
  grown id := by
    rw [store_told, Store.versionAt_write]
    have hgrown := h.grown id
    split
    · rename_i hid
      subst hid
      omega
    · exact hgrown
  held id := by
    have hsince : s.versionAt w.id ≤ w.version := by
      have hgrown := h.grown w.id
      omega
    rw [store_told, h.chronicled.lastActive_write hversion]
    by_cases hactive : w.isActive
    · rw [Runtime.told, if_pos (by simp [hactive, h.bound])]
      dsimp only
      rw [Engine.put, Dict.get?_set]
      by_cases hid : id = w.id
      · rw [if_pos hid, if_pos ⟨hid, hid ▸ hsince, hactive⟩]
        rfl
      · rw [if_neg hid, if_neg fun hc => hid hc.1, h.held]
    · rw [Runtime.told, if_neg (by simp [hactive]), if_neg fun hc => hactive hc.2.2]
      exact h.held id

theorem Follows.rebound (h : Follows s e r) : Follows s e
    { r with engine := r.store.actives.foldl Engine.put r.engine, bound := true } where
  bound := rfl
  sound := h.sound
  chronicled := h.chronicled
  grown := h.grown
  held id := by
    dsimp only
    rw [Engine.get?_foldl_put, h.chronicled.getLast?_actives, h.held]
    cases hw : r.store.workflows.get? id with
    | none => rfl
    | some w =>
      by_cases hactive : w.isActive
      · obtain ⟨rfl, hrec⟩ := h.chronicled.recorded hw
        rw [Option.filter_some_pos hactive, hrec.lastActive_of_active hactive (h.since hw)]
        rfl
      · rw [Option.filter_some_neg (Bool.eq_false_iff.2 hactive)]
        rfl

theorem Follows.step (h : Follows s e r) (hcall : Carries r r') : Follows s e r' := by
  cases hcall with
  | nothing => exact h
  | workflow hw hversion => exact h.told hw hversion
  | bindings bindings =>
    exact ⟨h.bound, h.sound, h.chronicled.withBindings bindings, h.grown, h.held⟩
  | engine => exact h.rebound

theorem Follows.after (h : Follows s e r) (calls : List (Supply × Context × Command)) :
    Follows s e (r.after calls) := by
  induction calls generalizing r with
  | nil => exact h
  | cons call rest ih => exact ih (h.step (call_carries h.sound call.2.1 call.2.2 call.1))

/-- An engine that is bound to what calls have left, and further calls. -/
@[irreducible]
def following (past : List (Supply × Context × Command)) (e : Engine) (ctx : Context)
    (supply : Supply) (later : List (Supply × Context × Command)) : Runtime :=
  ((bindEngine ctx).runOn supply ⟨(empty.after past).store, e, false⟩).2.2.after later

theorem follows_following (past : List (Supply × Context × Command)) (e : Engine) {ctx : Context}
    (hctx : ctx.ensureActive = .ok ()) (supply : Supply)
    (later : List (Supply × Context × Command)) :
    Follows (empty.after past).store e (following past e ctx supply later) := by
  have hsound := after_sound (r := empty) Store.sound_empty past
  have hchronicled := (after_chronicles (r := empty) Store.chronicled_empty past).1
  rw [following, Call.runOn, bindEngine_apply (r := ⟨_, e, false⟩) hsound hctx]
  exact (follows_bound hsound hchronicled e).after later

theorem Follows.active (h : Follows s e r) {id : String} {w : Workflow}
    (hw : r.store.workflows.get? id = some w) (hactive : w.isActive) :
    r.engine.definition? id = some w.definition := by
  obtain ⟨rfl, hrec⟩ := h.chronicled.recorded hw
  rw [Engine.definition?, (h.sound _ w hw).key, h.held,
    hrec.lastActive_of_active hactive (h.since hw)]
  rfl

theorem active_workflows_held (past later : List (Supply × Context × Command)) (e : Engine)
    (supply : Supply) (ctx : Context) (hctx : ctx.ensureActive = .ok ()) :
    let s := (empty.after past).store
    let r := following past e ctx supply later
    ((bindEngine ctx).runOn supply ⟨s, e, false⟩).1 = .ok s.actives.length ∧
      ∀ id w, r.store.workflows.get? id = some w → w.isActive →
        w.id = id ∧ r.engine.definition? id = some w.definition := by
  intro s r
  have hsound := after_sound (r := empty) Store.sound_empty past
  have hfollows : Follows s e r := follows_following past e hctx supply later
  refine ⟨?_, fun id w hw hactive => ?_⟩
  · rw [Call.runOn, bindEngine_apply (r := ⟨s, e, false⟩) hsound hctx]
  · exact ⟨(hfollows.chronicled.recorded hw).1, hfollows.active hw hactive⟩

def edits : List (Supply × Context × Command) :=
  [(⟨⟨0, 0⟩, 0⟩, .empty, .updateWorkflow "review"
      { Update.none with definition := some ⟨"draft", [⟨"publish", "draft", "second", ""⟩]⟩ } 1),
    (⟨⟨0, 0⟩, 0⟩, .empty, .rollbackWorkflow "review" 1 2),
    (⟨⟨0, 0⟩, 0⟩, .empty, .createWorkflow { review with id := none })]

theorem active_workflows_held_edits :
    let r := following bindReview .empty .empty ⟨⟨0, 0⟩, 0⟩ edits
    r.store.workflows.keys = [Supply.identifier 0, "review"] ∧
      ∃ w, r.store.workflows.get? "review" = some w ∧ w.version = 3 ∧
        r.engine.definition? "review" = some w.definition := by
  intro r
  have hstored : (r.store.workflows.get? "review").map (fun w => (w.version, w.isActive)) =
      some (3, true) := by decide +kernel
  obtain ⟨w, hw, hfacts⟩ := Option.map_eq_some_iff.1 hstored
  obtain ⟨hversion, hactive⟩ := Prod.mk.inj hfacts
  have hkeys : r.store.workflows.keys = [Supply.identifier 0, "review"] := by decide +kernel
  have hheld := active_workflows_held bindReview edits .empty ⟨⟨0, 0⟩, 0⟩ .empty rfl
  exact ⟨hkeys, w, hw, hversion, (hheld.2 "review" w hw hactive).2⟩

theorem inactive_workflows_left (past later : List (Supply × Context × Command)) (e : Engine)
    (supply : Supply) (ctx : Context) (hctx : ctx.ensureActive = .ok ()) :
    let s := (empty.after past).store
    let r := following past e ctx supply later
    ∀ id w, r.store.workflows.get? id = some w → ¬w.isActive →
      r.engine.definition? id =
          ((r.store.lastActive id (s.versionAt id)).map (·.definition)).or (e.definition? id) ∧
        ((∀ rev ∈ r.store.history id, s.versionAt id ≤ rev.version → rev.status ≠ .active) →
          e.definition? id = none →
          r.engine.has id = false ∧
            ∀ ctx req supply, ctx.ensureActive = .ok () → Text.key req.entityType = id →
              r.engine.transition ctx req supply = .error (.noWorkflow req.entityType)) := by
  intro s r id w hw _
  have hfollows : Follows s e r := follows_following past e hctx supply later
  have hkey : Text.key id = id := by
    rw [← (hfollows.chronicled.recorded hw).1]
    exact (hfollows.sound id w hw).key
  have hheld : r.engine.definition? id =
      ((r.store.lastActive id (s.versionAt id)).map (·.definition)).or (e.definition? id) := by
    rw [Engine.definition?, Engine.definition?, hkey, hfollows.held]
  refine ⟨hheld, fun hnever hempty => ?_⟩
  have hlast : r.store.lastActive id (s.versionAt id) = none := by
    rw [Store.lastActive, List.getLast?_eq_none_iff, List.filter_eq_nil_iff]
    intro rev hrev hcounts
    simp only [Bool.and_eq_true, decide_eq_true_eq, beq_iff_eq] at hcounts
    exact hnever rev hrev hcounts.1 hcounts.2
  rw [hlast, hempty] at hheld
  have hhas : r.engine.has id = false := by
    rw [Engine.has, hheld]
    rfl
  refine ⟨hhas, fun ctx req supply hctx hreq => ?_⟩
  refine Engine.refuses ?_ hctx hreq supply
  rw [Engine.definition?, hkey] at hheld
  exact hheld

def retirement : List (Supply × Context × Command) :=
  [(⟨⟨0, 0⟩, 0⟩, .empty,
      .updateWorkflow "review" { Update.none with status := some .deprecated } 1),
    (⟨⟨0, 0⟩, 0⟩, .empty, .createWorkflow { review with id := some "pages", status := none })]

theorem inactive_workflows_left_retirement :
    let r := following bindReview .empty .empty ⟨⟨0, 0⟩, 0⟩ retirement
    (∃ w, r.store.workflows.get? "pages" = some w ∧ w.status = .draft) ∧
      r.engine.has "pages" = false := by
  intro r
  have hstored : (r.store.workflows.get? "pages").map (·.status) = some .draft := by decide +kernel
  obtain ⟨w, hw, hdraft⟩ := Option.map_eq_some_iff.1 hstored
  have hinactive : ¬w.isActive := by simp [isActive, hdraft]
  have hnever : ∀ rev ∈ r.store.history "pages", rev.status ≠ .active := by decide +kernel
  have hleft := inactive_workflows_left bindReview retirement .empty ⟨⟨0, 0⟩, 0⟩ .empty rfl
    "pages" w hw hinactive
  exact ⟨⟨w, hw, hdraft⟩, (hleft.2 (fun rev hrev _ => hnever rev hrev) rfl).1⟩

/-- The engine goes on running a workflow that has been deprecated. -/
theorem deprecated_workflow_runs :
    let r := following bindReview .empty .empty ⟨⟨0, 0⟩, 0⟩ retirement
    (r.store.workflows.get? "review").map (·.status) = some .deprecated ∧
      r.engine.has "review" = true ∧
      (r.engine.fire .empty ⟨"1", "review", "draft", "publish", "", []⟩).toOption =
        some ("draft", "live") := by
  decide +kernel

end Runtime

end Backoffice.Workflow

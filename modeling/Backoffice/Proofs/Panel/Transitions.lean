import Backoffice.Proofs.Panel.Permissions
import Backoffice.Proofs.Text.Ascii
import Backoffice.Proofs.Workflow.Determinism

namespace Backoffice.Panel

open Call (Ensures ensures_asks ensures_atomic ensures_ofExcept ensures_pure ensures_state
  ensures_throw)

theorem Builder.nodup_of_checkActions {panel : String} {seen : List String} {actions : List Action}
    (h : checkActions panel seen actions = .ok ()) :
    (actions.map (Text.key ·.name)).Nodup ∧ ∀ a ∈ actions, Text.key a.name ∉ seen := by
  induction actions generalizing seen with
  | nil => exact ⟨List.nodup_nil, fun a ha => by cases ha⟩
  | cons a rest ih =>
    rw [checkActions] at h
    split at h
    · cases h
    · rename_i hfresh
      obtain ⟨hnodup, hseen⟩ := ih h
      simp only [List.contains_eq_mem, decide_eq_true_eq] at hfresh
      refine ⟨List.nodup_cons.2 ⟨fun hmem => ?_, hnodup⟩, fun c hc => ?_⟩
      · obtain ⟨c, hc, heq⟩ := List.mem_map.1 hmem
        refine hseen c hc ?_
        rw [heq]
        exact List.mem_cons_self
      · rcases List.mem_cons.1 hc with rfl | hc
        · exact hfresh
        · exact fun hmem => hseen c hc (List.mem_cons_of_mem _ hmem)

variable {p : Panel} {s : Services} {ctx : Context} {id : String} {record payload : Record}
  {l : Lifecycle} {d : Workflow.Definition} {a : Action}

theorem Builder.nodup_of_build {b : Builder} (h : b.build = .ok p) :
    (p.actions.map (Text.key ·.name)).Nodup := by
  unfold build at h
  dsimp only at h
  generalize Text.key b.name = name at h
  obtain ⟨-, h⟩ := refuse_eq_ok.1 h
  split at h
  · obtain ⟨source, -, h⟩ := bind_eq_ok.1 h
    obtain ⟨_, hactions, h⟩ := bind_eq_ok.1 h
    obtain ⟨_, -, h⟩ := bind_eq_ok.1 h
    cases h
    exact (nodup_of_checkActions hactions).1
  · cases h

theorem Action.find?_of_mem {actions : List Action} (h : (actions.map (Text.key ·.name)).Nodup)
    (ha : a ∈ actions) : find? actions a.name = some a := by
  induction actions with
  | nil => cases ha
  | cons c rest ih =>
    obtain ⟨hhead, hrest⟩ := List.nodup_cons.1 h
    unfold find?
    rcases List.mem_cons.1 ha with rfl | ha
    · simp
    · have hne : Text.key c.name ≠ Text.key a.name := by
        intro heq
        exact hhead (List.mem_map.2 ⟨a, ha, heq.symm⟩)
      rw [List.find?_cons_of_neg (by simpa using hne)]
      exact ih hrest ha

namespace Source

def Holds (source : Source) (s : Services) (id : String) (record : Record) : Prop :=
  match source with
  | .table handle => (s.table handle).records.get? id = some record
  | .content c => (s.content.recordsOf c.id).get? id = some record

def Writable (source : Source) (s : Services) : Prop :=
  match source with
  | .table _ => True
  | .content _ => s.content.readOnly = false

variable {source : Source}

theorem ensures_partition {c : ContentType} {s : ContentRecords}
    (h : (s.recordsOf c.id).get? id = some record) :
    (ContentRecords.partition c).Ensures s fun r t =>
      ∃ repository, r = .ok repository ∧ repository.records.get? id = some record ∧ t = s := by
  refine Ensures.seq (ensures_state ?_)
  dsimp only
  unfold ContentRecords.recordsOf at h
  cases hr : s.partitions.get? c.id with
  | none =>
    rw [hr] at h
    cases h
  | some r =>
    rw [hr] at h
    exact ensures_pure ⟨r, rfl, h, rfl⟩

theorem get_of_records {r : Repository} (hactive : ctx.ensureActive = .ok ())
    (h : r.records.get? id = some record) : r.get ctx id = .ok record := by
  simp [Repository.get, hactive, h, bind, Except.bind]

theorem update_of_records {r : Repository} (hactive : ctx.ensureActive = .ok ())
    (h : r.records.get? id = some record) (patch : Record) :
    ∃ written, r.update ctx id patch = .ok written := by
  simp [Repository.update, get_of_records hactive h, bind, Except.bind]

theorem ensures_get (hactive : ctx.ensureActive = .ok ()) (h : source.Holds s id record) :
    (source.get ctx id).Ensures s fun r t => r = .ok record ∧ t = s := by
  cases source with
  | table handle =>
    have hget : (s.table handle).get ctx id = .ok record := get_of_records hactive h
    refine ensures_asks (P := fun r t => r = .ok record ∧ t = s) (fun a ha => ?_) fun e he => ?_
    · exact ⟨ha.symm.trans hget, rfl⟩
    · exact ⟨he.symm.trans hget, rfl⟩
  | content c =>
    unfold Source.get Services.onContent ContentRecords.get
    refine Ensures.within ((ensures_partition h).bind ?_ ?_)
    · rintro repository _ ⟨_, ⟨⟩, hr, rfl⟩
      rw [get_of_records hactive hr]
      exact ensures_pure ⟨rfl, rfl⟩
    · rintro e _ ⟨_, ⟨⟩, -⟩

theorem ensures_update (hactive : ctx.ensureActive = .ok ()) (h : source.Holds s id record)
    (patch : Record) :
    (source.update ctx id patch).Ensures s fun r _ =>
      (∃ updated, r = .ok updated) ↔ source.Writable s := by
  cases source with
  | table handle =>
    obtain ⟨⟨updated, repository⟩, hupdate⟩ := update_of_records hactive h patch
    refine ensures_atomic (fun a _ _ => iff_of_true ⟨a, rfl⟩ trivial) fun e he => ?_
    dsimp only at he
    rw [hupdate] at he
    cases he
  | content c =>
    unfold Source.update Services.onContent ContentRecords.update ContentRecords.writing Writable
    refine Ensures.within (Ensures.seq (ensures_state ?_))
    dsimp only
    cases hopen : s.content.readOnly with
    | true => exact Ensures.seq (ensures_throw (by simp))
    | false =>
      refine (ensures_partition h).bind ?_ ?_
      · rintro repository _ ⟨_, ⟨⟩, hr, rfl⟩
        obtain ⟨written, hupdate⟩ := update_of_records hactive hr patch
        rw [hupdate]
        exact Ensures.seq (ensures_pure (Ensures.seq (Call.ensures_change (ensures_pure (by simp)))))
      · rintro e _ ⟨_, ⟨⟩, -⟩

end Source

/-- The panel stores the states of a lifecycle whose definition the engine has, and has no hooks. -/
structure Governed (p : Panel) (s : Services) (l : Lifecycle) (d : Workflow.Definition) : Prop where
  lifecycle : p.lifecycle = some l
  definition : s.runtime.engine.definition? l.workflowId = some d
  hooks : p.hooks = .none

/-- The policy, if the panel is subject to it, lets the transition of that name pass. -/
def Unvetoed (p : Panel) (s : Services) (ctx : Context) (id name : String) (payload : Record) : Prop :=
  p.policed = true → ∀ policy, s.enforcer.policy = some policy →
    policy.apply ⟨p.name, id, Text.key name, ctx.environment, ctx.locale, payload⟩ = .ok ()

theorem ensures_check {attempt : Workflow.Attempt}
    (h : ∀ policy, s.enforcer.policy = some policy → policy.apply attempt = .ok ()) :
    (Services.onEnforcer (Workflow.Enforcer.check attempt)).Ensures s fun r t =>
      r = .ok () ∧ t = s := by
  refine Ensures.within (Ensures.seq (ensures_state ?_))
  dsimp only
  cases hpolicy : s.enforcer.policy with
  | none => exact ensures_pure ⟨rfl, rfl⟩
  | some policy =>
    dsimp only
    rw [h policy hpolicy]
    exact ensures_pure ⟨rfl, rfl⟩

theorem ensures_write (hhooks : p.hooks = .none) (hactive : ctx.ensureActive = .ok ())
    (h : p.source.Holds s id record) (patch : Record) :
    (p.write ctx id patch).Ensures s fun r _ =>
      (∃ updated, r = .ok updated) ↔ p.source.Writable s := by
  unfold write
  simp only [hhooks, Hooks.none, pure_bind]
  refine (Source.ensures_update hactive h patch).bind (fun updated t ht => ?_) fun _ _ ht => ht
  exact ensures_pure (by simpa using ht)

theorem ensures_fired (hg : p.Governed s l d) (hactive : ctx.ensureActive = .ok ())
    (h : p.source.Holds s id record) {r : Workflow.TransitionRequest}
    (htype : r.entityType = l.workflowId) :
    ((Call.asks fun s : Services => s.runtime.engine.fire ctx r) >>= fun (_, target) =>
      p.write ctx id [(l.stateField, .str target)]).Ensures s fun r' _ =>
        (∃ updated, r' = .ok updated) ↔
          p.source.Writable s ∧ (d.find? (d.stateOf r.currentState) r.transition).isSome := by
  have hfire := Workflow.Engine.fire_eq hactive (htype ▸ hg.definition)
  cases hfind : d.find? (d.stateOf r.currentState) r.transition with
  | none =>
    refine Ensures.seq (ensures_asks ?_ ?_)
    · intro x hx
      simp only [hfire, hfind] at hx
      cases hx
    · simp
  | some t =>
    refine Ensures.seq (ensures_asks ?_ ?_)
    · rintro ⟨source, target⟩ -
      simpa using ensures_write hg.hooks hactive h [(l.stateField, .str target)]
    · intro e he
      simp only [hfire, hfind] at he
      cases he

theorem ensures_transitionRecord (hg : p.Governed s l d) (hactive : ctx.ensureActive = .ok ())
    (h : p.source.Holds s id record) {name : String} (hpass : p.Unvetoed s ctx id name payload) :
    (p.transitionRecord ctx id name payload).Ensures s fun r _ => (∃ updated, r = .ok updated) ↔
      p.source.Writable s ∧ (d.find? (d.stateOf (stateOf l record)) (Text.key name)).isSome := by
  unfold transitionRecord
  rw [hg.lifecycle]
  refine (Source.ensures_get hactive h).bind ?_ ?_
  · rintro _ _ ⟨⟨⟩, rfl⟩
    have hfired := ensures_fired hg hactive h (r := ⟨id, l.workflowId, stateOf l record,
      Text.key name, ctx.userId, payload⟩) rfl
    dsimp only
    -- with and without a policy the engine is asked next, in the same state
    split
    · rename_i hpoliced
      refine (ensures_check (hpass hpoliced)).bind ?_ ?_
      · rintro _ _ ⟨⟨⟩, rfl⟩
        exact hfired
      · rintro _ _ ⟨⟨⟩, -⟩
    · exact hfired
  · rintro _ _ ⟨⟨⟩, -⟩

def Offers (p : Panel) (ctx : Context) (engine : Workflow.Engine) (record : Record) (a : Action) :
    Prop :=
  ∃ offered, p.availableActions ctx engine record = .ok offered ∧ a ∈ offered

def Succeeds (p : Panel) (ctx : Context) (a : Action) (id : String) (payload : Record) (supply : Supply)
    (s : Services) : Prop :=
  ∃ answer, ((p.runAction ctx a.name ⟨[id], payload⟩).runOn supply s).1 = .ok answer

/-- A declared action that fires the transition of its own name and is not passive. -/
structure Fires (p : Panel) (a : Action) : Prop where
  declared : a ∈ p.actions
  target : a.target = .transition a.name
  notPassive : a.isPassive = false

theorem allows_iff {permission : String} :
    p.allows ctx permission = true ↔ p.authorize ctx permission = .ok () := by
  unfold allows
  cases p.authorize ctx permission <;> simp

theorem availableActions_eq_ok {engine : Workflow.Engine} (hlifecycle : p.lifecycle = some l)
    (hd : engine.definition? l.workflowId = some d) {offered : List Action} :
    p.availableActions ctx engine record = .ok offered ↔ ctx.cancelled = false ∧
      p.actions.filter (fun a => isOffered (some ((d.leaving (d.stateOf (stateOf l record))).map
        (Text.key ·.name))) a && p.allows ctx (p.permissionFor a)) = offered := by
  unfold availableActions Workflow.Engine.available Workflow.Engine.require
  rw [hlifecycle, ← Context.ensureActive_eq_ok]
  cases hactive : ctx.ensureActive with
  | error e => simp [bind, Except.bind]
  | ok => simp [hd, bind, Except.bind]

theorem offers_iff (hg : p.Governed s l d) (ha : p.Fires a) :
    p.Offers ctx s.runtime.engine record a ↔
      ctx.cancelled = false ∧ p.allows ctx (p.permissionFor a) = true ∧
        ∃ t ∈ d.leaving (d.stateOf (stateOf l record)), Text.key t.name = Text.key a.name := by
  unfold Offers
  simp only [availableActions_eq_ok hg.lifecycle hg.definition]
  simp [List.mem_filter, ha.declared, isOffered, ha.notPassive, ha.target, Action.transitionName?,
    and_comm]

theorem ensures_execute (hg : p.Governed s l d) (ha : p.Fires a)
    (h : p.source.Holds s id record) (hpass : p.Unvetoed s ctx id a.name payload) :
    (p.execute ctx a ⟨[id], payload⟩).Ensures s fun r _ => (∃ answer, r = .ok answer) ↔
      ctx.cancelled = false ∧ p.allows ctx (p.permissionFor a) = true ∧ p.source.Writable s ∧
        (d.find? (d.stateOf (stateOf l record)) (Text.key a.name)).isSome = true := by
  rw [← Context.ensureActive_eq_ok, allows_iff]
  unfold execute
  refine Ensures.seq (ensures_ofExcept (fun _ hactive => ?_) fun e hactive => by simp [hactive])
  refine Ensures.seq (ensures_ofExcept (fun _ hallowed => ?_) fun e hallowed => by simp [hallowed])
  simp only [hactive, hallowed, true_and]
  rw [ha.target]
  dsimp only [List.isEmpty_cons]
  simp only [Bool.false_eq_true, if_false, List.mapM_cons, List.mapM_nil, pure_bind, bind_assoc]
  refine (ensures_transitionRecord hg hactive h hpass).bind (fun updated _ hrun => ?_) fun _ _ hrun => ?_
  · exact ensures_pure (by simpa using hrun)
  · simpa using hrun

theorem isSome_find? {state name : String} :
    (d.find? state (Text.key name)).isSome = true ↔
      ∃ t ∈ d.leaving state, Text.sameIgnoringCase t.name (Text.key name) = true := by
  simp [Workflow.Definition.find?, List.find?_isSome]

theorem succeeds_iff (hdistinct : (p.actions.map (Text.key ·.name)).Nodup) (hg : p.Governed s l d)
    (ha : p.Fires a) (h : p.source.Holds s id record) (hpass : p.Unvetoed s ctx id a.name payload)
    (supply : Supply) :
    p.Succeeds ctx a id payload supply s ↔
      ctx.cancelled = false ∧ p.allows ctx (p.permissionFor a) = true ∧ p.source.Writable s ∧
        ∃ t ∈ d.leaving (d.stateOf (stateOf l record)),
          Text.sameIgnoringCase t.name (Text.key a.name) = true := by
  unfold Succeeds runAction
  rw [Action.find?_of_mem hdistinct ha.declared, ← isSome_find?]
  exact ensures_execute hg ha h hpass supply

/-- Offers go by keys, runs by names up to ASCII case. So a transition that runs is offered, and one
that is offered runs if the source takes writes and lower-casing the names changes ASCII letters only. -/
theorem offered_runs {b : Builder} (hbuild : b.build = .ok p) (hg : p.Governed s l d)
    (ha : p.Fires a) (h : p.source.Holds s id record) (hpass : p.Unvetoed s ctx id a.name payload)
    (supply : Supply) :
    let leaving := d.leaving (d.stateOf (stateOf l record))
    let offered := p.Offers ctx s.runtime.engine record a
    let succeeds := p.Succeeds ctx a id payload supply s
    (offered ↔ ctx.cancelled = false ∧ p.allows ctx (p.permissionFor a) = true ∧
      ∃ t ∈ leaving, Text.key t.name = Text.key a.name) ∧
    (succeeds ↔ ctx.cancelled = false ∧ p.allows ctx (p.permissionFor a) = true ∧
      p.source.Writable s ∧ ∃ t ∈ leaving, Text.sameIgnoringCase t.name (Text.key a.name) = true) ∧
    (succeeds → offered) ∧
    (p.source.Writable s →
      (∀ t ∈ leaving, Text.sameIgnoringCase t.name (Text.key t.name) = true) →
      (offered ↔ succeeds)) := by
  intro leaving offered succeeds
  have hoffered : offered ↔ _ := offers_iff hg ha
  have hsucceeds := succeeds_iff (Builder.nodup_of_build hbuild) hg ha h hpass supply
  have honward : succeeds → offered := by
    intro hrun
    obtain ⟨hactive, hallowed, -, t, ht, hname⟩ := hsucceeds.1 hrun
    have hkey := Text.key_eq_of_sameIgnoringCase hname
    rw [Text.key_key] at hkey
    exact hoffered.2 ⟨hactive, hallowed, t, ht, hkey⟩
  refine ⟨hoffered, hsucceeds, honward, fun hwritable hascii => ⟨fun hoffer => ?_, honward⟩⟩
  obtain ⟨hactive, hallowed, t, ht, hkey⟩ := hoffered.1 hoffer
  exact hsucceeds.2 ⟨hactive, hallowed, hwritable, t, ht, hkey ▸ hascii t ht⟩

def firing (name : String) : Builder :=
  { Builder.new "notes" with
    source := some (.table "notes")
    lifecycle := some ⟨"notes", "status"⟩
    actions := [.transition name] }

def editing (name : String) : Workflow.Definition :=
  ⟨"draft", [⟨name, "draft", "edited", ""⟩]⟩

def note : Record := [("id", .str "1")]

def stocked (name : String) : Services where
  toStores := { Stores.empty with
    tables := .ofList [("notes", { Repository.new "notes" with records := .ofList [("1", note)] })]
    runtime := { Workflow.Runtime.empty with engine := ⟨.ofList [("notes", editing name)]⟩ } }
  bus := .empty

def notes (name : String) : Panel :=
  ⟨"notes", "notes", .table "notes", .empty, [.transition name], [], .ofBase "admin.notes",
    some ⟨"notes", "status"⟩, false, none, [], false, false, false, false, .allowAll, .none, false⟩

theorem build_firing (name : String) : (firing name).build = .ok (notes name) := by
  have hname : Text.key "notes" = "notes" := by decide
  have hbase : "admin." ++ "notes" = "admin.notes" := by decide
  unfold Builder.build
  simp only [firing, Builder.new, hname, hbase]
  rfl

theorem governed_notes (name other : String) :
    (notes name).Governed (stocked other) ⟨"notes", "status"⟩ (editing other) := by
  refine ⟨rfl, ?_, rfl⟩
  have hname : Text.key "notes" = "notes" := by decide
  unfold Workflow.Engine.definition?
  rw [hname]
  rfl

theorem holds_note (name : String) : (Source.table "notes").Holds (stocked name) "1" note := rfl

theorem allows_notes (name permission : String) (ctx : Context) :
    (notes name).allows ctx permission = true := by
  simp [allows, authorize, notes, Authorizer.allowAll]

theorem leaving_editing (name : String) :
    (editing name).leaving ((editing name).stateOf (stateOf ⟨"notes", "status"⟩ note)) =
      [⟨name, "draft", "edited", ""⟩] := rfl

theorem offered_runs_edit :
    let p := notes "edit note"
    let s := stocked "Edit Note"
    p.Offers .empty s.runtime.engine note (.transition "edit note") ∧
      p.Succeeds .empty (.transition "edit note") "1" [] ⟨⟨0, 0⟩, 0⟩ s := by
  intro p s
  have hfires : p.Fires (.transition "edit note") :=
    ⟨List.mem_singleton_self _, rfl, by decide⟩
  have hpass : p.Unvetoed s .empty "1" "edit note" [] := fun h => nomatch h
  obtain ⟨hoffered, -, -, hruns⟩ := offered_runs (build_firing "edit note")
    (governed_notes _ "Edit Note") hfires (holds_note "Edit Note") hpass ⟨⟨0, 0⟩, 0⟩
  rw [leaving_editing, List.forall_mem_singleton] at hruns
  have hoffer := hoffered.2 ⟨rfl, allows_notes _ _ _, _, List.mem_singleton_self _,
    by decide +kernel⟩
  exact ⟨hoffer, (hruns trivial (by decide +kernel)).1 hoffer⟩

/-- The transition is offered for the note, and firing it is refused. -/
theorem offered_not_run :
    let p := notes "Éditer"
    let s := stocked "Éditer"
    (firing "Éditer").build = .ok p ∧ p.Fires (.transition "Éditer") ∧
      Workflow.Engine.empty.register "notes" (editing "Éditer") = .ok s.runtime.engine ∧
      p.source.Holds s "1" note ∧ p.hooks = .none ∧ p.policed = false ∧
      p.Offers .empty s.runtime.engine note (.transition "Éditer") ∧
      ¬p.Succeeds .empty (.transition "Éditer") "1" [] ⟨⟨0, 0⟩, 0⟩ s := by
  intro p s
  have hfires : p.Fires (.transition "Éditer") :=
    ⟨List.mem_singleton_self _, rfl, by decide⟩
  have hgoverned : p.Governed s ⟨"notes", "status"⟩ (editing "Éditer") := governed_notes _ _
  refine ⟨build_firing _, hfires, rfl, holds_note _, rfl, rfl, ?_, fun h => ?_⟩
  · exact (offers_iff hgoverned hfires).2
      ⟨rfl, allows_notes _ _ _, _, List.mem_singleton_self _, rfl⟩
  · have hdistinct := Builder.nodup_of_build (build_firing "Éditer")
    obtain ⟨-, -, -, t, ht, hname⟩ :=
      (succeeds_iff hdistinct hgoverned hfires (holds_note _) (fun h => nomatch h) _).1 h
    rw [leaving_editing, List.mem_singleton] at ht
    subst ht
    exact absurd hname (by decide +kernel)

end Backoffice.Panel

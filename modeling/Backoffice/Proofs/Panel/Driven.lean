import Backoffice.Proofs.Panel.Creation
import Backoffice.Proofs.Workflow.Determinism

namespace Backoffice.Panel

namespace Builder

variable {panel : String} {seen : List String} {b : Builder}

theorem checkActions_append {as bs : List Action} (h : checkActions panel seen as = .ok ()) :
    checkActions panel seen (as ++ bs) =
      checkActions panel ((as.map (Text.key ·.name)).reverse ++ seen) bs := by
  induction as generalizing seen with
  | nil => rfl
  | cons a as ih =>
    rw [checkActions] at h
    rw [List.cons_append, checkActions]
    split at h
    · cases h
    · rename_i hfresh
      rw [if_neg hfresh, ih h, List.map_cons, List.reverse_cons, List.append_assoc]
      rfl

theorem checkActions_of_nodup {actions : List Action}
    (h : (actions.map (Text.key ·.name)).Nodup) : checkActions panel seen actions =
      match actions.find? fun a => seen.contains (Text.key a.name) with
      | some a => .error (.invalid "actions" ("duplicate action " ++ a.name ++ " on panel " ++ panel))
      | none => .ok () := by
  induction actions generalizing seen with
  | nil => rfl
  | cons a rest ih =>
    obtain ⟨hother, hrest⟩ := List.nodup_cons.1 h
    rw [checkActions, List.find?_cons]
    cases hseen : seen.contains (Text.key a.name) with
    | true => rfl
    | false =>
      have hsame : (rest.find? fun c => (Text.key a.name :: seen).contains (Text.key c.name)) =
          rest.find? fun c => seen.contains (Text.key c.name) := by
        rw [← List.head?_filter, ← List.head?_filter]
        refine congrArg List.head? (List.filter_congr fun c hc => ?_)
        have hne : Text.key c.name ≠ Text.key a.name :=
          fun heq => hother (List.mem_map.2 ⟨c, hc, heq⟩)
        rw [List.contains_cons, beq_eq_false_iff_ne.2 hne, Bool.false_or]
      rw [if_neg Bool.false_ne_true, ih hrest, hsame]

theorem build_eq {source : Source} (hname : Text.key b.name ≠ "") (hsource : b.source = some source)
    (hbulk : b.bulkActions = []) :
    match checkActions (Text.key b.name) [] b.actions with
    | .ok () => ∃ p, b.build = .ok p ∧ p.actions = b.actions
    | .error e => b.build = .error e := by
  unfold build
  generalize Text.key b.name = name at hname
  rw [hsource, hbulk]
  dsimp only
  rw [if_neg (mt beq_iff_eq.1 hname)]
  cases checkActions name [] b.actions with
  | ok _ => exact ⟨_, rfl, rfl⟩
  | error e => rfl

end Builder

namespace Factory

variable {f : Factory} {runtime : Workflow.Runtime} {ctx : Context} {c : ContentType}
  {r : WorkflowResolution} {d : Workflow.Definition} {environment slug : String}

theorem keys_passiveActions (p : PermissionSet) :
    (passiveActions p).map (Text.key ·.name) = Action.passiveNames := by
  have hkeys : Action.passiveNames.map Text.key = Action.passiveNames := by decide
  rw [passiveActions, List.map_map]
  exact hkeys

theorem foldl_unless_seen {k names : List String} (h : (k ++ names).Nodup) :
    names.foldl (fun names n => if names.contains n then names else names ++ [n]) k =
      k ++ names := by
  induction names generalizing k with
  | nil => simp
  | cons n rest ih =>
    have hnew : n ∉ k := fun hn =>
      (List.disjoint_of_nodup_append h) hn List.mem_cons_self
    rw [List.foldl_cons, if_neg (by simpa using hnew), ih (by simpa using h)]
    simp

theorem transitionActions_eq (hd : d.WellFormed) {id : String}
    (h : runtime.engine.definition? id = some d) (field : String) :
    transitionActions runtime.engine ⟨id, field⟩ =
      d.transitions.map (Action.transition ·.name) := by
  have hnames : (d.transitions.map fun t => t.name).Nodup := by
    refine List.Nodup.of_map Text.key ?_
    rw [List.map_map]
    exact hd.distinct
  unfold transitionActions
  rw [h]
  dsimp only
  refine (congrArg (List.map Action.transition) (foldl_unless_seen (k := []) hnames)).trans ?_
  rw [List.nil_append, List.map_map]
  rfl

theorem lifecycleFor_eq (hengine : f.usesEngine = true)
    (hresolved : f.resolveWorkflow runtime ctx c environment = .ok (some r))
    (h : runtime.engine.definition? r.workflowId = some d) :
    f.lifecycleFor runtime ctx c environment = .ok (some ⟨r.workflowId, defaultStateField⟩) := by
  have hhas : runtime.engine.has r.workflowId = true := Option.isSome_iff_exists.2 ⟨d, h⟩
  unfold lifecycleFor
  rw [hresolved, hengine]
  exact if_pos hhas

def clash? (d : Workflow.Definition) : Option Workflow.Transition :=
  d.transitions.find? fun t => Action.passiveNames.contains (Text.key t.name)

theorem checkActions_driven (hd : d.WellFormed) (panel : String) (p : PermissionSet) :
    Builder.checkActions panel []
        (passiveActions p ++ d.transitions.map (Action.transition ·.name)) =
      match clash? d with
      | some t => .error (.invalid "actions" ("duplicate action " ++ t.name ++ " on panel " ++ panel))
      | none => .ok () := by
  have hpassive : Builder.checkActions panel [] (passiveActions p) = .ok () := by
    have hnodup : ((passiveActions p).map (Text.key ·.name)).Nodup := by
      rw [keys_passiveActions]
      decide
    rw [Builder.checkActions_of_nodup hnodup,
      List.find?_eq_none.2 fun a _ => by simp]
  have hdistinct : ((d.transitions.map (Action.transition ·.name)).map (Text.key ·.name)).Nodup := by
    rw [List.map_map]
    exact hd.distinct
  have hseen (t : Workflow.Transition) : (Action.passiveNames.reverse ++ []).contains
      (Text.key (Action.transition t.name).name) =
        Action.passiveNames.contains (Text.key t.name) := by
    rw [List.append_nil, Bool.eq_iff_iff, List.contains_iff_mem, List.contains_iff_mem,
      List.mem_reverse]
    rfl
  rw [Builder.checkActions_append hpassive, Builder.checkActions_of_nodup hdistinct,
    keys_passiveActions, List.find?_map, clash?]
  simp only [Function.comp_def, hseen]
  cases d.transitions.find? fun t => Action.passiveNames.contains (Text.key t.name) with
  | none => rfl
  | some t => rfl

theorem ownName_ne_empty (hslug : c.panelSlug ≠ "") : ownName ctx c ≠ "" := by
  unfold ownName panelName
  split
  · exact hslug
  · intro h
    have hlist := congrArg String.toList h
    simp [String.toList_append] at hlist

theorem exists_builder {lifecycle : Option Lifecycle}
    (h : f.lifecycleFor runtime ctx c environment = .ok lifecycle) (slug : String) :
    ∃ b : Builder, f.buildPanel runtime ctx c environment slug = b.build ∧
      b.name = panelName slug environment ∧ b.source = some (.content c) ∧ b.bulkActions = [] ∧
      b.actions = passiveActions (permissionsFor c) ++
        (lifecycle.map (transitionActions runtime.engine)).getD [] := by
  unfold buildPanel
  rw [h]
  dsimp only [bind, Except.bind]
  exact ⟨_, rfl, rfl, rfl, rfl, rfl⟩

variable {e e' : Workflow.Engine} {entityType : String} {given : Workflow.Definition}

/-- A workflow that was accepted drives the panel of a content type, with its passive actions and one
action for each transition, unless a transition is named as a passive action: then the panel cannot be
built. -/
theorem workflow_drives_panel (haccepted : e.register entityType given = .ok e')
    (hheld : runtime.engine.definition? r.workflowId = some given.trimmed)
    (hengine : f.usesEngine = true)
    (hresolved : f.resolveWorkflow runtime ctx c (environmentFor ctx c) = .ok (some r))
    (hslug : c.panelSlug ≠ "") :
    match clash? given.trimmed with
    | none => ∃ p, f.buildPanel runtime ctx c (environmentFor ctx c) c.panelSlug = .ok p ∧
        p.actions = passiveActions (permissionsFor c) ++
          given.trimmed.transitions.map (Action.transition ·.name)
    | some t => f.buildPanel runtime ctx c (environmentFor ctx c) c.panelSlug =
        .error (.invalid "actions"
          ("duplicate action " ++ t.name ++ " on panel " ++ ownName ctx c)) := by
  obtain ⟨-, hd, -⟩ := Workflow.Engine.register_eq_ok_iff.1 haccepted
  have hname : Text.key (panelName c.panelSlug (environmentFor ctx c)) ≠ "" := by
    rw [key_ownName]
    exact ownName_ne_empty hslug
  have hactions := checkActions_driven hd (ownName ctx c) (permissionsFor c)
  obtain ⟨b, hbuild, hbname, hsource, hbulk, hbactions⟩ :=
    exists_builder (lifecycleFor_eq hengine hresolved hheld) c.panelSlug
  rw [Option.map_some, Option.getD_some, transitionActions_eq hd hheld] at hbactions
  have hdecides := b.build_eq (hbname ▸ hname) hsource hbulk
  rw [hbname, key_ownName, hbactions, hactions] at hdecides
  rw [hbuild]
  cases hclash : clash? given.trimmed with
  | none =>
    rw [hclash] at hdecides
    exact hdecides
  | some t =>
    rw [hclash] at hdecides
    exact hdecides

def governing : Factory := { bare with usesEngine := true }

def following (workflow : String) : ContentType :=
  titled "1" "Posts" "posts" [("workflow_id", .str workflow)]

def publishing : Workflow.Definition := ⟨"draft", [⟨"Publish", "draft", "published", ""⟩]⟩

def editing : Workflow.Definition := ⟨"draft", [⟨"Edit", "draft", "draft", ""⟩]⟩

theorem publishing_drives_posts : ∃ runtime p,
    Workflow.Engine.empty.register "publishing" publishing = .ok runtime.engine ∧
      governing.buildPanel runtime .empty (following "publishing") "" "posts" = .ok p ∧
      p.actions.map (·.name) = ["view", "edit", "delete", "create_translation", "Publish"] := by
  have hvalid : publishing.trimmed.WellFormed :=
    Workflow.Definition.validate_eq_ok_iff.1 (by decide)
  obtain ⟨runtime, haccepted⟩ : ∃ runtime : Workflow.Runtime,
      Workflow.Engine.empty.register "publishing" publishing = .ok runtime.engine :=
    ⟨⟨.empty, _, false⟩, Workflow.Engine.register_eq_ok_iff.2 ⟨by decide +kernel, hvalid, rfl⟩⟩
  have hnamed : (following "publishing").explicitWorkflow? = some "publishing" := rfl
  have hresolved : governing.resolveWorkflow runtime .empty (following "publishing")
      (environmentFor .empty (following "publishing")) =
        .ok (some ⟨"publishing", .capability⟩) := by
    rw [resolveWorkflow, hnamed]
  have hheld : runtime.engine.definition? "publishing" = some publishing.trimmed :=
    Workflow.Engine.definition?_of_register haccepted rfl
  have hdriven := workflow_drives_panel (f := governing) (r := ⟨"publishing", .capability⟩)
    haccepted hheld rfl hresolved (by decide +kernel)
  have hclash : clash? publishing.trimmed = none := by decide +kernel
  have henvironment : environmentFor .empty (following "publishing") = "" := by decide
  have hslug : (following "publishing").panelSlug = "posts" := by decide
  rw [hclash, henvironment, hslug] at hdriven
  obtain ⟨p, hbuilt, hactions⟩ := hdriven
  refine ⟨runtime, p, haccepted, hbuilt, ?_⟩
  rw [hactions]
  rfl

/-- A workflow that was accepted keeps the panel of a content type from being built. -/
theorem editing_blocks_posts : ∃ runtime : Workflow.Runtime,
    Workflow.Engine.empty.register "editing" editing = .ok runtime.engine ∧
      (following "editing").status.exposesPanel = true ∧
      (following "editing").panelSlug = "posts" ∧
      governing.resolveWorkflow runtime .empty (following "editing") "" =
        .ok (some ⟨"editing", .capability⟩) ∧
      ∀ p, governing.buildPanel runtime .empty (following "editing") "" "posts" ≠ .ok p := by
  have hvalid : editing.trimmed.WellFormed :=
    Workflow.Definition.validate_eq_ok_iff.1 (by decide)
  have hnamed : (following "editing").explicitWorkflow? = some "editing" := by decide
  refine ⟨⟨.empty, _, false⟩, Workflow.Engine.register_eq_ok_iff.2 ⟨by decide, hvalid, rfl⟩,
    rfl, by decide, by rw [resolveWorkflow, hnamed], fun p hbuilt => ?_⟩
  have hfails : (governing.buildPanel ⟨.empty, ⟨Dict.empty.set (Text.key "editing") editing.trimmed⟩,
      false⟩ .empty (following "editing") "" "posts").isOk = false := by decide +kernel
  have hok := congrArg Except.isOk hbuilt
  cases hfails.symm.trans hok

end Factory

end Backoffice.Panel

import Backoffice.Office.Load
import Backoffice.Proofs.Dashboard
import Backoffice.Proofs.Ensures
import Backoffice.Proofs.Module
import Backoffice.Proofs.Panel.Mirror

namespace Backoffice

/-- The code of the host, if the module runs any, leaves a part of the premises as it was. -/
def Module.Spares {α : Type} (m : Module) (ctx : Context) (part : Premises → α) : Prop :=
  ∀ run, m.setup = .host run → ∀ x, (run ctx).Leaves x fun y => part y = part x

namespace Office

open Call (Ensures ensures_pure ensures_change bind_apply_ok bind_apply_eq_ok ofExcept_apply
  asks_apply)
open Backoffice.Module (Accepted DependsOn Sorted ids)
open Relation (TransGen ReflTransGen)

variable {o o' : Office} {ctx : Context} {locale : String} {m : Module}

def introduce (ctx : Context) (locale : String) (m : Module) : Call Office (List Menu.Item) := do
  setUp ctx m
  note m ("menu_items " ++ m.manifest.id ++ " " ++ locale)
  pure (m.completedItems (← Call.state).config.navMenuCode locale)

def linesOf (locale : String) (m : Module) : List String :=
  if m.logs then
    ["register " ++ m.manifest.id, "menu_items " ++ m.manifest.id ++ " " ++ locale]
  else []

def localeFor (o : Office) (ctx : Context) : String :=
  if ctx.locale == "" then o.config.defaultLocale else ctx.locale

/-- What stays as it is until a load succeeds. -/
def frame (o : Office) : (Assignment.Queue.Verb → String) × Option Module.Report :=
  (o.queueLabel, o.report)

structure Adds (G J : Prop) (lines : List String) (o o' : Office) : Prop where
  frame : o'.frame = o.frame
  gate : G → o'.gate = o.gate
  journal : J → o'.services.journal = o.services.journal ++ lines

section Adds

variable {G J : Prop}

theorem Adds.none (hframe : o'.frame = o.frame) (hgate : o'.gate = o.gate)
    (hjournal : o'.services.journal = o.services.journal) : Adds G J [] o o' :=
  ⟨hframe, fun _ => hgate, fun _ => by rw [hjournal, List.append_nil]⟩

theorem Adds.trans {o₁ o₂ : Office} {lines lines' : List String} (h : Adds G J lines o o₁)
    (h' : Adds G J lines' o₁ o₂) : Adds G J (lines ++ lines') o o₂ where
  frame := h'.frame.trans h.frame
  gate hg := (h'.gate hg).trans (h.gate hg)
  journal hj := by rw [h'.journal hj, h.journal hj, List.append_assoc]

theorem leaves_note {line : String} :
    (note m line).Leaves o (Adds G J (if m.logs then [line] else []) o) := by
  unfold note
  split
  · exact Ensures.within (ensures_change ⟨rfl, fun _ => rfl, fun _ => rfl⟩)
  · exact ensures_pure (.none rfl rfl rfl)

theorem leaves_registerWidget {w : Dashboard.Widget} :
    (registerWidget w).Leaves o (Adds G J [] o) :=
  ensures_onDashboard (fun _ _ _ => .none rfl rfl rfl) fun _ _ => .none rfl rfl rfl

theorem leaves_pure {α : Type} {a : α} : (pure a : Call Office α).Leaves o (Adds G J [] o) :=
  ensures_pure (.none rfl rfl rfl)

theorem leaves_state : Call.state.Leaves o (Adds G J [] o) :=
  Call.ensures_state (.none rfl rfl rfl)

theorem leaves_seq {α β : Type} {c : Call Office α} {f : α → Call Office β}
    (hc : c.Leaves o (Adds G J [] o)) (hf : ∀ a o', (f a).Leaves o' (Adds G J [] o')) :
    (c >>= f).Leaves o (Adds G J [] o) :=
  Ensures.trans (fun h h' => h.trans h') hc fun a o' _ => hf a o'

theorem leaves_onSite {α : Type} {c : Call Site α} : (onSite c).Leaves o (Adds G J [] o) :=
  fun _ => .none rfl rfl rfl

theorem leaves_onRuntime {α : Type} {c : Call Workflow.Runtime α} :
    (onRuntime c).Leaves o (Adds G J [] o) := fun _ => .none rfl rfl rfl

theorem leaves_onBus {α : Type} {c : Call Command.Bus α} : (onBus c).Leaves o (Adds G J [] o) :=
  fun _ => .none rfl rfl rfl

theorem leaves_setUp (hgate : G → m.Spares ctx (·.services.gate))
    (hjournal : J → m.Spares ctx (·.services.journal)) : (setUp ctx m).Leaves o
    (Adds G J (if m.logs then ["register " ++ m.manifest.id] else []) o) := by
  unfold setUp
  refine leaves_note.bind (fun _ o₁ h₁ => ?_) fun _ h₁ => h₁
  refine Ensures.imp (P := fun _ => Adds G J [] o₁) ?_
    fun _ o' h => by simpa only [List.append_nil] using h₁.trans h
  cases hsetup : m.setup with
  | widget w => exact leaves_registerWidget
  | workflows => exact leaves_seq leaves_onRuntime fun _ _ => leaves_pure
  | queue w =>
    refine leaves_seq leaves_state fun _ _ => ?_
    exact leaves_seq leaves_onBus fun _ _ => leaves_registerWidget
  | content =>
    refine leaves_seq (leaves_seq ?_ fun _ _ => ?_) fun _ _ => leaves_pure
    · exact Call.ensures_asks (fun _ _ => .none rfl rfl rfl) fun _ _ => .none rfl rfl rfl
    · exact leaves_seq leaves_state fun _ _ => leaves_onSite
  | host run =>
    refine Ensures.within fun supply => ⟨rfl, fun hg => ?_, fun hj => ?_⟩
    · exact hgate hg run hsetup o₁.toPremises supply
    · rw [List.append_nil]
      exact hjournal hj run hsetup o₁.toPremises supply

theorem linesOf_eq : linesOf locale m = (if m.logs then ["register " ++ m.manifest.id] else []) ++
    if m.logs then ["menu_items " ++ m.manifest.id ++ " " ++ locale] else [] := by
  unfold linesOf
  cases m.logs with
  | true => rfl
  | false => rfl

theorem ensures_introduce (hgate : G → m.Spares ctx (·.services.gate))
    (hjournal : J → m.Spares ctx (·.services.journal)) :
    (introduce ctx locale m).Ensures o fun r o' =>
      o'.frame = o.frame ∧ ∀ items, r = .ok items → Adds G J (linesOf locale m) o o' := by
  unfold introduce
  refine Ensures.bind (leaves_setUp hgate hjournal) (fun _ o₁ h₁ => ?_) fun _ _ h₁ => ⟨h₁.frame, nofun⟩
  refine Ensures.bind (leaves_note (G := G) (J := J)) (fun _ o₂ h₂ => ?_)
    fun _ _ h₂ => ⟨h₂.frame.trans h₁.frame, nofun⟩
  have hadds : Adds G J (linesOf locale m) o o₂ := by
    rw [linesOf_eq]
    exact h₁.trans h₂
  exact fun _ => ⟨hadds.frame, fun _ _ => hadds⟩

end Adds

theorem introduce_bind {β : Type} (f : List Menu.Item → Call Office β) :
    introduce ctx locale m >>= f = (do
      setUp ctx m
      note m ("menu_items " ++ m.manifest.id ++ " " ++ locale)
      f (m.completedItems (← Call.state).config.navMenuCode locale)) := by
  simp only [introduce, bind_assoc, pure_bind]

theorem loadAll_cons (report : Module.Report) (m : Module) (rest : List Module) :
    loadAll ctx locale report (m :: rest) = (do
      Call.ofExcept ctx.ensureActive
      match ← Call.asks fun o => m.skip? o.gate ctx report.skipped with
      | some s => loadAll ctx locale { report with skipped := report.skipped ++ [s] } rest
      | none => do
        let items ← introduce ctx locale m
        let (report, more) ←
          loadAll ctx locale { report with loaded := report.loaded ++ [m.id] } rest
        pure (report, items ++ more)) := by
  rewrite [introduce_bind]
  rfl

theorem sorted_of_loadAll {ms rest loaded : List Module} {report report' : Module.Report}
    {items : List Menu.Item} {supply supply' : Supply}
    (h : loadAll ctx locale report rest (supply, o) = (.ok (report', items), supply', o'))
    (hgates : ∀ m ∈ rest, m.Spares ctx (·.services.gate))
    (hsorted : Sorted o.gate ctx ms loaded report.skipped) (hloaded : report.loaded = ids loaded) :
    ∃ more itemsOf, Sorted o.gate ctx (ms ++ rest) (loaded ++ more) report'.skipped ∧
      report'.loaded = ids (loaded ++ more) ∧ items = itemsOf.flatten ∧
      more.mapM (introduce ctx locale) (supply, o) = (.ok itemsOf, supply', o') ∧
      ((∀ m ∈ rest, m.Spares ctx (·.services.journal)) →
        o'.services.journal = o.services.journal ++ more.flatMap (linesOf locale)) := by
  induction rest generalizing o supply ms loaded report items with
  | nil =>
    cases h
    exact ⟨[], [], by simpa using hsorted, by simpa using hloaded, rfl, rfl, fun _ => by simp⟩
  | cons m rest ih =>
    rw [loadAll_cons] at h
    obtain ⟨_, s₁, hactive, h⟩ := bind_apply_eq_ok.1 h
    rw [ofExcept_apply] at hactive
    cases (Prod.mk.inj hactive).2
    obtain ⟨fate, s₂, hasked, h⟩ := bind_apply_eq_ok.1 h
    rw [asks_apply] at hasked
    obtain ⟨hfate, rfl⟩ := Prod.mk.inj hasked
    obtain ⟨hgate, hgates⟩ := List.forall_mem_cons.1 hgates
    cases fate with
    | some skipped =>
      obtain ⟨more, itemsOf, hsorted', hloaded', hitems, hmore, hjournal⟩ :=
        ih h hgates (hsorted.skip hfate) hloaded
      exact ⟨more, itemsOf, by simpa using hsorted', hloaded', hitems, hmore,
        fun hjournals => hjournal (List.forall_mem_cons.1 hjournals).2⟩
    | none =>
      obtain ⟨first, ⟨supply₁, o₁⟩, hfirst, h⟩ := bind_apply_eq_ok.1 h
      obtain ⟨⟨report'', later⟩, s₂, hrest, h⟩ := bind_apply_eq_ok.1 h
      cases h
      have hadds : Adds True (m.Spares ctx (·.services.journal)) (linesOf locale m) o o₁ := by
        have hintroduce : (introduce ctx locale m).Ensures o _ :=
          ensures_introduce (G := True) (fun _ => hgate) id
        have hdone := hintroduce supply
        rw [hfirst] at hdone
        exact hdone.2 first rfl
      rw [← hadds.gate trivial] at hfate hsorted ⊢
      obtain ⟨more, itemsOf, hsorted', hloaded', rfl, hmore, hjournal⟩ :=
        ih hrest hgates (hsorted.load hfate) (by simp [hloaded])
      refine ⟨m :: more, first :: itemsOf, ?_, ?_, rfl, ?_, fun hjournals => ?_⟩
      · simpa using hsorted'
      · simpa using hloaded'
      · rw [List.mapM_cons, bind_apply_ok hfirst, bind_apply_ok hmore]
        rfl
      · obtain ⟨hfirst, hlater⟩ := List.forall_mem_cons.1 hjournals
        rw [hjournal hlater, hadds.journal hfirst, List.append_assoc]
        rfl

theorem leaves_mergeItems {G J : Prop} {items : List Menu.Item} :
    (mergeItems ctx items).Leaves o (Adds G J [] o) :=
  leaves_seq leaves_state fun _ _ _ => .none rfl rfl rfl

theorem load_follows {report : Module.Report} {supply supply' : Supply}
    (haccepted : Accepted o.modules) (hgates : ∀ m ∈ o.modules, m.Spares ctx (·.services.gate))
    (hfirst : o.report = none) (h : load ctx (supply, o) = (.ok report, supply', o')) :
    let loaded := o.modules.filter fun m => report.isLoaded m.id
    let skipped := o.modules.filter fun m => !report.isLoaded m.id
    report.loaded = ids loaded ∧ report.skipped.map (·.moduleId) = ids skipped ∧
      (∀ m ∈ o.modules, m ∈ loaded ↔
        m.isOn o.gate ctx ∧ ∀ d, TransGen (DependsOn o.modules) m d → d ∈ loaded) ∧
      (∀ earlier m later, loaded = earlier ++ m :: later →
        ∀ d, TransGen (DependsOn o.modules) m d → d ∈ earlier) ∧
      (∃ itemsOf s₁ o₂, loaded.mapM (introduce ctx (o.localeFor ctx)) (supply, o) =
          (.ok itemsOf, s₁) ∧
        mergeItems ctx itemsOf.flatten s₁ = (.ok report.itemsAdded, supply', o₂) ∧
        o' = { o₂ with report := some report }) ∧
      ((∀ m ∈ o.modules, m.Spares ctx (·.services.journal)) → o'.services.journal =
        o.services.journal ++ loaded.flatMap (linesOf (o.localeFor ctx))) ∧
      ∀ s ∈ report.skipped, ∃ m ∈ skipped, m.id = s.moduleId ∧
        ∃ d, ReflTransGen (DependsOn o.modules) m d ∧
          s.feature ∈ d.manifest.features ∧ o.gate.isEnabled ctx s.feature = .ok false := by
  intro loaded skipped
  obtain ⟨_, s₀, hstate, h⟩ := bind_apply_eq_ok.1 h
  cases hstate
  simp only [hfirst] at h
  obtain ⟨⟨told, items⟩, ⟨supply₁, o₁⟩, hall, h⟩ := bind_apply_eq_ok.1 h
  obtain ⟨added, ⟨supply₂, o₂⟩, hmerge, h⟩ := bind_apply_eq_ok.1 h
  cases h
  obtain ⟨more, itemsOf, hsorted, htold, rfl, hrun, hjournal⟩ :=
    sorted_of_loadAll hall hgates .nil rfl
  simp only [List.nil_append] at hsorted htold
  obtain ⟨hmore, hskipped⟩ := hsorted.partition haccepted
  rw [← htold] at hmore hskipped
  have hloaded : loaded = more := hmore.symm
  refine ⟨by rw [hloaded, ← htold], hskipped, fun m hm => ?_, ?_, ?_, fun hjournals => ?_,
    fun s hs => ?_⟩
  · rw [hloaded]
    exact hsorted.mem_iff haccepted hm
  · intro earlier m later hsplit d hd
    exact hsorted.before haccepted (hloaded ▸ hsplit) hd
  · rw [hloaded]
    exact ⟨itemsOf, _, o₂, hrun, hmerge, rfl⟩
  · have hmerged : (mergeItems ctx itemsOf.flatten).Leaves o₁ (Adds True True [] o₁) :=
      leaves_mergeItems
    have hlast := (hmerged supply₁).journal trivial
    rw [hmerge, List.append_nil] at hlast
    rw [hloaded]
    exact hlast.trans (hjournal hjournals)
  · obtain ⟨m, hm, hid, hreason⟩ := hsorted.reason (List.Subset.refl _) hs
    refine ⟨m, List.mem_filter.2 ⟨hm, ?_⟩, hid, hreason⟩
    have hnot : m.id ∉ told.loaded := by
      rw [htold, ← hsorted.loaded_of_not_skipped haccepted (Module.id_mem_ids hm)]
      exact fun h => h (hid ▸ List.mem_map_of_mem hs)
    simpa [Module.Report.isLoaded] using hnot

def announcing (m : Module.Manifest) : Module :=
  ⟨m, .host fun _ => Call.change fun x =>
    { x with services := { x.services with journal := x.services.journal ++ [m.id] } },
    fun _ => [], false⟩

theorem announcing_spares (m : Module.Manifest) (ctx : Context) :
    (announcing m).Spares ctx (·.services.gate) := by
  rintro _ ⟨⟩ x
  exact ensures_change rfl

def staged : Office :=
  { vacant with
    services := { vacant.services with gate := ⟨.ofList [("blog", true), ("shop", false)], none⟩ }
    modules := [announcing (.new "core"), announcing ((Module.Manifest.new "shop").withFeature "shop"),
      announcing ((Module.Manifest.new "cart").withDependency "shop"),
      announcing (((Module.Manifest.new "blog").withFeature "blog").withDependency "core")] }

def stagedReport : Module.Report where
  loaded := ["core", "blog"]
  skipped := [⟨"shop", "shop", "module shop requires feature shop"⟩,
    ⟨"cart", "shop", "module cart depends on skipped module shop"⟩]
  itemsAdded := 0

theorem load_follows_staged :
    ∃ supply' o', Accepted staged.modules ∧
      (∀ m ∈ staged.modules, m.Spares .empty (·.services.gate)) ∧ staged.report = none ∧
      load .empty (⟨⟨0, 0⟩, 0⟩, staged) = (.ok stagedReport, supply', o') ∧
      o'.services.journal = ["core", "blog"] ∧
      stagedReport.loaded = ids (staged.modules.filter fun m => stagedReport.isLoaded m.id) := by
  have haccepted : Accepted staged.modules := rfl
  have hgates : ∀ m ∈ staged.modules, m.Spares .empty (·.services.gate) := by
    intro m hm
    simp only [staged, List.mem_cons, List.not_mem_nil, or_false] at hm
    rcases hm with rfl | rfl | rfl | rfl <;> exact announcing_spares _ _
  have hreport : (load .empty (⟨⟨0, 0⟩, 0⟩, staged)).1 = .ok stagedReport := by decide
  have hload : load .empty (⟨⟨0, 0⟩, 0⟩, staged) = (.ok stagedReport, _, _) := Prod.ext hreport rfl
  obtain ⟨hloaded, -⟩ := load_follows haccepted hgates rfl hload
  exact ⟨_, _, haccepted, hgates, rfl, hload, by decide, hloaded⟩

end Office

end Backoffice

import Backoffice.Proofs.Panel.Entries

namespace Backoffice

namespace Call

variable {σ α β : Type}

theorem ofExcept_bind_eq_error {x : Except Fault α} {g : α → Call σ β} {s t : Supply × σ}
    {e : Fault} : (ofExcept x >>= g) s = (.error e, t) ↔
      (x = .error e ∧ t = s) ∨ ∃ a, x = .ok a ∧ g a s = (.error e, t) := by
  rw [bind_apply, ofExcept_apply]
  cases x with
  | ok a => simp
  | error e' =>
    constructor
    · rintro ⟨⟩
      exact .inl ⟨rfl, rfl⟩
    · rintro (⟨⟨⟩, rfl⟩ | ⟨_, ⟨⟩, -⟩)
      rfl

theorem checked_eq_error {b : Bool} {x : Except Fault Unit} {c : Call σ α} {s t : Supply × σ}
    {e : Fault} (h : (if b then ofExcept x >>= fun _ => c else c) s = (.error e, t)) :
    (t = s ∧ b = true ∧ x = .error e) ∨ c s = (.error e, t) := by
  cases b with
  | false => exact .inr h
  | true =>
    rcases ofExcept_bind_eq_error.1 h with ⟨hx, rfl⟩ | ⟨_, -, h⟩
    · exact .inl ⟨rfl, rfl, hx⟩
    · exact .inr h

end Call

namespace Panel.Factory

open Menu (Item)

variable {f : Factory} {runtime : Workflow.Runtime} {ctx : Context} {supply later : Supply}
  {s t : Site} {c : ContentType} {p : Panel} {position : Option Int} {environment slug : String}
  {item : Item} {e : Fault}

inductive Refused (item : Item) (menus : Menu.Service) : Fault → Menu.Service → Prop
  | code : menus.menus.contains (Text.key item.menuCode) = false → Text.key item.menuCode = "" →
    Refused item menus (.invalid "code" "menu code is required") menus
  | label : menus.menus.contains (Text.key item.menuCode) = true ∨ Text.key item.menuCode ≠ "" →
    Text.blank item.label = true →
    (∀ i ∈ menus.itemsAt (Text.key item.menuCode), i.id ≠ item.id) →
    Refused item menus (.invalid "label" "menu item label is required") (thinned item menus)

theorem linkMenu_eq_error (hs : s.menus.Orderly) (hactive : ctx.cancelled = false)
    {r : Supply × Site} (h : f.linkMenu ctx p c slug position (supply, s) = (.error e, r)) :
    ∃ menus, Refused (f.menuItem ctx p c slug position) s.menus e menus ∧
      r = (supply, { s with menus }) := by
  by_cases hmenu : s.menus.menus.contains (Text.key f.menuCode) = true ∨ Text.key f.menuCode ≠ ""
  · have hid : (f.menuItem ctx p c slug position).id =
      (f.menuItem ctx p c slug position).canonicalKey := rfl
    rw [linkMenu_lodges supply hs hactive hmenu, ← f.menuItem_menuCode ctx p c slug position] at h
    rw [← f.menuItem_menuCode ctx p c slug position] at hmenu
    generalize f.menuItem ctx p c slug position = item at hmenu hid h ⊢
    by_cases htakes : Text.blank item.label = false ∨
        ∃ i ∈ s.menus.itemsAt (Text.key item.menuCode), i.id = item.id
    · have hlodged := (lodge_eq_ok_iff hs hactive hid supply s _ _).2 ⟨htakes, rfl, rfl⟩
      cases hlodged.symm.trans h
    · obtain ⟨hlabel, hnew⟩ := not_or.1 htakes
      have hlabel := Bool.eq_true_of_not_eq_false hlabel
      rw [lodge_blank hs hactive hlabel hnew] at h
      cases h
      exact ⟨_, .label hmenu hlabel fun i hi hid => hnew ⟨i, hi, hid⟩, rfl⟩
  · obtain ⟨hnone, hcode⟩ := not_or.1 hmenu
    have hnone := Bool.eq_false_iff.2 hnone
    have hcode := not_not.1 hcode
    rw [linkMenu_unmade supply hs hactive hnone hcode] at h
    cases h
    exact ⟨s.menus, .code hnone hcode, rfl⟩

theorem link_eq_error (hs : s.menus.Orderly) (hactive : ctx.cancelled = false) {r : Supply × Site}
    (h : f.link runtime ctx c environment slug position (supply, s) = (.error e, r)) :
    (r = (supply, s) ∧ ((f.validates = true ∧ c.checkSchema = .error e) ∨
        f.buildPanel runtime ctx c environment slug = .error e)) ∨
      f.hasMenus = true ∧
      ∃ p menus, f.buildPanel runtime ctx c environment slug = .ok p ∧
        Refused (f.menuItem ctx p c slug position) s.menus e menus ∧
        r = (supply, { s with
          registry := (s.registry.put p).adapt p.name ⟨p, titleField c p⟩, menus }) := by
  rcases Call.checked_eq_error h with ⟨hsame, hschema⟩ | h
  · exact .inl ⟨hsame, .inl hschema⟩
  rcases Call.ofExcept_bind_eq_error.1 h with ⟨hbuilt, hsame⟩ | ⟨p, hbuilt, h⟩
  · exact .inl ⟨hsame, .inr hbuilt⟩
  rw [Site.onRegistry_bind, Site.onRegistry_bind] at h
  cases hmenus : f.hasMenus with
  | false =>
    rw [hmenus] at h
    cases h
  | true =>
    rw [hmenus, if_pos rfl] at h
    rcases hlink : f.linkMenu ctx p c slug position (supply, { s with
        registry := (s.registry.put p).adapt p.name ⟨p, titleField c p⟩ }) with ⟨e' | id, r'⟩
    · obtain ⟨menus, hrefused, rfl⟩ := linkMenu_eq_error (s := { s with
        registry := (s.registry.put p).adapt p.name ⟨p, titleField c p⟩ }) hs hactive hlink
      rw [Call.bind_apply_error hlink] at h
      cases h
      exact .inr ⟨rfl, p, menus, hbuilt, hrefused, rfl⟩
    · rw [Call.bind_apply_ok hlink] at h
      cases h

/-- What a creation that fails leaves: everything as it was, or the panel and its adapter under its
name, and the menus as they are where the item was refused. -/
structure Abandoned (f : Factory) (runtime : Workflow.Runtime) (ctx : Context) (c : ContentType)
    (position : Option Int) (e : Fault) (s t : Site) : Prop where
  slug : ∀ environment typeId, t.slug? environment typeId = s.slug? environment typeId
  attachments : t.registry.attachments = s.registry.attachments
  rest : t.registry = s.registry ∧ t.menus = s.menus ∨
    c.status.exposesPanel = true ∧ f.hasMenus = true ∧
      ∃ p, f.buildPanel runtime ctx c (environmentFor ctx c) c.panelSlug = .ok p ∧
        t.registry = (s.registry.put p).adapt p.name ⟨p, titleField c p⟩ ∧
        Refused (f.menuItem ctx p c c.panelSlug position) s.menus e t.menus

theorem abandoned_refl (f : Factory) (runtime : Workflow.Runtime) (ctx : Context) (c : ContentType)
    (position : Option Int) (e : Fault) (s : Site) :
    f.Abandoned runtime ctx c position e s s :=
  ⟨fun _ _ => rfl, rfl, .inl ⟨rfl, rfl⟩⟩

theorem slug?_restored (h : t.slugs = (s.withSlug environment c.id (some slug)).slugs)
    (environment' typeId : String) :
    (t.withSlug environment c.id (s.slug? environment c.id)).slug? environment' typeId =
      s.slug? environment' typeId := by
  rw [Site.slug?_withSlug]
  split
  · rename_i hsame
    rw [hsame.1, hsame.2]
  · rename_i hother
    rw [Site.slug?_congr h, Site.slug?_withSlug, if_neg hother]

theorem exists_detach_eq (supply : Supply) (hs : s.menus.Orderly) (hactive : ctx.cancelled = false)
    (f : Factory) (name : String) : ∃ t, f.detach ctx name (supply, s) = (.ok (), supply, t) := by
  cases hmenus : f.hasMenus with
  | true => exact ⟨_, detach_eq hmenus hs hactive name⟩
  | false =>
    unfold detach
    rw [Call.bind_apply_ok (Call.state_apply _), hmenus]
    have hgone := unregister_eq supply hs hactive name
    cases s.registry.attachments.get? name with
    | none => exact ⟨_, Call.bind_apply_ok hgone _⟩
    | some a => exact ⟨_, Call.bind_apply_ok hgone _⟩

theorem exists_cleanup_eq (supply : Supply) (hs : s.menus.Orderly)
    (hactive : ctx.cancelled = false) (f : Factory) (c : ContentType) (environment : String) :
    ∃ t, f.cleanup ctx c environment (supply, s) = (.ok (), supply, t) := by
  unfold cleanup
  have hreleased : Site.release environment c.id none (supply, s) =
      (.ok (), supply, s.withSlug environment c.id none) := rfl
  rw [Call.bind_apply_ok (Call.reads_apply _ _), Call.bind_apply_ok hreleased]
  dsimp only
  split
  · exact exists_detach_eq (s := s.withSlug environment c.id none) supply hs hactive f _
  · exact ⟨_, rfl⟩

theorem createAt_hidden_eq_error (hs : s.menus.Orderly) (hc : c.status.exposesPanel = false)
    (h : f.createAt runtime ctx c position (supply, s) = (.error e, later, t)) : t = s := by
  rcases Call.ofExcept_bind_eq_error.1 h with ⟨-, hsame⟩ | ⟨_, hactive, h⟩
  · exact congrArg Prod.snd hsame
  have hactive := Context.ensureActive_eq_ok.1 hactive
  dsimp only at h
  rw [hc, if_neg Bool.false_ne_true] at h
  rcases Call.checked_eq_error h with ⟨hsame, -⟩ | h
  · exact congrArg Prod.snd hsame
  obtain ⟨t', hcleaned⟩ := exists_cleanup_eq supply hs hactive f c (environmentFor ctx c)
  rw [Call.bind_apply_ok hcleaned] at h
  cases h

theorem createAt_exposed_eq_error (hs : s.menus.Orderly) (hc : c.status.exposesPanel = true)
    (h : f.createAt runtime ctx c position (supply, s) = (.error e, later, t)) :
    f.Abandoned runtime ctx c position e s t := by
  rw [createAt_apply hc] at h
  split at h
  · cases h
    exact abandoned_refl _ _ _ _ _ _ s
  rename_i hactive
  split at h
  · cases h
    exact abandoned_refl _ _ _ _ _ _ s
  split at h
  · cases h
    exact abandoned_refl _ _ _ _ _ _ s
  split at h
  · cases h
  rename_i hlink
  cases h
  have hlinked := link_eq_error (s := s.withSlug (environmentFor ctx c) c.id (some c.panelSlug)) hs
    (Bool.eq_false_iff.2 hactive) hlink
  rcases hlinked with ⟨hsame, -⟩ | ⟨hmenus, p, menus, hbuilt, hrefused, hstranded⟩
  · cases hsame
    exact ⟨slug?_restored rfl, rfl, .inl ⟨rfl, rfl⟩⟩
  · cases hstranded
    exact ⟨slug?_restored rfl, rfl, .inr ⟨hc, hmenus, p, hbuilt, rfl, hrefused⟩⟩

/-- A creation that fails changes nothing, unless the panel was registered and its menu item refused;
slugs and attachments are as they were in any case. -/
theorem failed_creation (hs : Attainable f s)
    (h : f.create runtime ctx c (supply, s) = (.error e, later, t)) :
    f.Abandoned runtime ctx c none e s t := by
  cases hc : c.status.exposesPanel with
  | true => exact createAt_exposed_eq_error hs.orderly hc h
  | false =>
    obtain rfl := createAt_hidden_eq_error hs.orderly hc h
    exact abandoned_refl _ _ _ _ _ _ t

def unlabelled : ContentType := titled "1" "" "" [("panel_slug", .str "b")]

theorem exists_create_unlabelled : ∃ e t,
    listed.create .empty .empty unlabelled (⟨⟨0, 0⟩, 0⟩, ⟨.empty false, .empty, []⟩) =
      (.error e, ⟨⟨0, 0⟩, 0⟩, t) ∧
    t.registry.names = ["b"] ∧ t.menus.menus.contains "admin" = true := by
  have hrun : (listed.create .empty .empty unlabelled
      (⟨⟨0, 0⟩, 0⟩, ⟨.empty false, .empty, []⟩)).1.isOk = false ∧
    (listed.create .empty .empty unlabelled
      (⟨⟨0, 0⟩, 0⟩, ⟨.empty false, .empty, []⟩)).2.1 = ⟨⟨0, 0⟩, 0⟩ ∧
    (listed.create .empty .empty unlabelled
      (⟨⟨0, 0⟩, 0⟩, ⟨.empty false, .empty, []⟩)).2.2.registry.names = ["b"] ∧
    (listed.create .empty .empty unlabelled
      (⟨⟨0, 0⟩, 0⟩, ⟨.empty false, .empty, []⟩)).2.2.menus.menus.contains "admin" = true := by
    decide +kernel
  generalize listed.create .empty .empty unlabelled
    (⟨⟨0, 0⟩, 0⟩, ⟨.empty false, .empty, []⟩) = r at hrun ⊢
  obtain ⟨e | a, supply, t⟩ := r
  · obtain ⟨-, rfl, hnames, hmenu⟩ := hrun
    exact ⟨e, t, rfl, hnames, hmenu⟩
  · cases hrun.1

/-- The slug of the content type is put back, its panel stays. -/
theorem unlabelled_abandoned : ∃ e t,
    listed.create .empty .empty unlabelled (⟨⟨0, 0⟩, 0⟩, ⟨.empty false, .empty, []⟩) =
      (.error e, ⟨⟨0, 0⟩, 0⟩, t) ∧
    t.slug? "" "1" = none ∧ t.registry.attachments.get? "b" = none ∧
    ∃ p, t.registry.get? "b" = some p := by
  obtain ⟨e, t, hcreate, hnames, -⟩ := exists_create_unlabelled
  have habandoned := failed_creation .start hcreate
  refine ⟨e, t, hcreate, habandoned.slug "" "1", ?_, ?_⟩
  · rw [habandoned.attachments]
    rfl
  · rcases habandoned.rest with ⟨hsame, -⟩ | ⟨-, -, p, hbuilt, hregistry, -⟩
    · rw [hsame] at hnames
      cases hnames
    · refine ⟨p, ?_⟩
      have hname : p.name = "b" :=
        (buildPanel_name hbuilt).trans (by decide)
      rw [hregistry, ← hname]
      exact Dict.get?_set_self _ _ _

/-- A creation that fails on a site without panels and menus leaves a panel and a menu. -/
theorem panel_outlives_creation : ∃ s e t, Attainable listed s ∧
    listed.create .empty .empty unlabelled (⟨⟨0, 0⟩, 0⟩, s) = (.error e, ⟨⟨0, 0⟩, 0⟩, t) ∧
    t.registry.names ≠ s.registry.names ∧
    t.menus.menus.contains "admin" ≠ s.menus.menus.contains "admin" := by
  obtain ⟨e, t, hcreate, hnames, hmenu⟩ := exists_create_unlabelled
  refine ⟨_, e, t, .start, hcreate, ?_, ?_⟩
  · rw [hnames]
    decide
  · rw [hmenu]
    decide

end Panel.Factory

end Backoffice

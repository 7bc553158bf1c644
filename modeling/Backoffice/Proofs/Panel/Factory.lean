import Backoffice.Panel.Factory
import Backoffice.Proofs.Panel.Site
import Backoffice.Proofs.Text.Key

namespace Backoffice.Panel.Factory

open Call (Ensures ensures_state ensures_asks ensures_pure ensures_reads ensures_change
  ensures_ofExcept ensures_throw ensures_atomic ensures_forM)
open Site (Confined Ends Footprint MenusOnly Touches ends_refused ensures_menus_only
  ensures_onMenus ensures_onMenus_only ensures_reserve ensures_unregister)

variable {f : Factory} {s t : Site} {ctx : Context} {c : ContentType}

structure Detached (name : String) (s : Site) (r : Except Fault Unit) (t : Site) : Prop where
  slugs : t.slugs = s.slugs
  registry : t.registry = s.registry.erase name ∨ (t.registry = s.registry ∧ ∃ e, r = .error e)
  menus : Menu.Service.SameBut (s.Attached name) s.menus t.menus

theorem ensures_detach (f : Factory) (ctx : Context) (name : String) (s : Site) :
    (f.detach ctx name).Ensures s (Detached name s) := by
  have hrest : ∀ menus, Menu.Service.SameBut (s.Attached name) s.menus menus →
      (do let _ ← Site.unregister ctx name : Call Site Unit).Ensures { s with menus }
        (Detached name s) := by
    intro menus hmenus
    refine (ensures_unregister _ ctx name).bind (fun _ t h => ensures_pure ?_) fun _ t h => ?_ <;>
      exact ⟨h.1, .inl h.2.1, hmenus.trans h.2.2⟩
  refine Ensures.seq (ensures_state ?_)
  dsimp only
  split
  · rename_i a ha
    split
    · refine Ensures.seq (ensures_onMenus (fun menus h => ?_) fun e _ => ?_)
      · exact hrest menus ((Menu.Service.dropItem_sameBut h).mono fun _ _ hi => ⟨a, ha, hi⟩)
      · exact ⟨rfl, .inr ⟨rfl, e, rfl⟩, .refl _⟩
    · exact hrest s.menus (.refl _)
  · exact hrest s.menus (.refl _)

theorem Detached.touches {name : String} {r : Except Fault Unit} (h : Detached name s r t) :
    Touches name (s.Attached name) s t where
  slugs := h.slugs
  registry other hother := by
    rcases h.registry with hregistry | ⟨hregistry, -⟩ <;> rw [hregistry]
    · exact Registry.sameAt_erase _ hother
    · exact .refl _ _
  menus := h.menus

theorem Detached.erased {name : String} (h : Detached name s (.ok ()) t) :
    t.registry = s.registry.erase name := by
  obtain hregistry | ⟨-, _, hr⟩ := h.registry
  · exact hregistry
  · cases hr

def itemId (f : Factory) (c : ContentType) (slug name : String) : String :=
  Menu.canonicalKey f.menuCode c.label (.panel (f.basePath ++ "/" ++ slug) name name) f.parentId

def Linked (f : Factory) (id key : String) (s : Site) (code : String) (i : Menu.Item) : Prop :=
  code = Text.key f.menuCode ∧
    (i.id = id ∨ ∃ j ∈ s.menus.itemsAt code, j.id = i.id ∧ j.target.key = key)

theorem linked_of_id {item : Menu.Item} {code : String} {i : Menu.Item}
    (h : Menu.Service.withId f.menuCode item.id code i) :
    f.Linked item.id item.target.key s code i :=
  ⟨h.1, .inl h.2⟩

theorem ensures_updateItem {item : Menu.Item} (hcode : item.menuCode = f.menuCode)
    (position : Option Int) :
    (Call.atomic fun s : Site => do
      let (i, menus) ← s.menus.updateItem ctx { item with position }
      .ok (i, { s with menus })).Ensures t fun _ u =>
        MenusOnly (f.Linked item.id item.target.key s) t u := by
  refine ensures_menus_only (g := (·.updateItem ctx { item with position })) fun i menus h => ?_
  have hsame := (Menu.Service.updateItem_sameBut h).2
  rw [hcode] at hsame
  exact hsame.mono fun _ _ => linked_of_id

theorem withId_of_canonical {item : Menu.Item} (h : item.id = item.canonicalKey)
    (position : Option Int) : { item with position }.withId = { item with position } := by
  simp only [Menu.Item.canonicalKey] at h
  simp only [Menu.Item.withId, Menu.Item.canonicalKey, ← h, ite_self]

theorem ensures_addItem {item : Menu.Item} (hcode : item.menuCode = f.menuCode)
    (hid : item.id = item.canonicalKey) (position : Option Int) :
    (Call.atomic fun s : Site => do
      let (i, menus) ← s.menus.addItem ctx { item with position }
      .ok (i, { s with menus })).Ensures t fun _ u =>
        MenusOnly (f.Linked item.id item.target.key s) t u := by
  refine ensures_menus_only (g := (·.addItem ctx { item with position })) fun i menus h => ?_
  obtain ⟨rfl, hsame⟩ := Menu.Service.addItem_sameBut h
  rw [withId_of_canonical hid, hcode] at hsame
  exact hsame.mono fun _ _ => linked_of_id

theorem ensures_linkMenu (f : Factory) (ctx : Context) (p : Panel) (c : ContentType)
    (slug : String) (position : Option Int) (s : Site) :
    (f.linkMenu ctx p c slug position).Ensures s fun _ t =>
      MenusOnly (f.Linked (f.itemId c slug p.name) p.name s) s t := by
  have hlinked : f.Linked (f.itemId c slug p.name) p.name s = f.Linked
    (f.menuItem ctx p c slug position).id (f.menuItem ctx p c slug position).target.key s := rfl
  have hcode : (f.menuItem ctx p c slug position).menuCode = f.menuCode := rfl
  have hid : (f.menuItem ctx p c slug position).id =
    (f.menuItem ctx p c slug position).canonicalKey := rfl
  rw [hlinked]
  generalize hitem : f.menuItem ctx p c slug position = item at hcode hid ⊢
  have hensured : (Site.onMenus (·.ensureMenu ctx f.menuCode)).Ensures s fun _ t =>
      MenusOnly (fun _ _ => False) s t :=
    ensures_onMenus_only fun _ h => Menu.Service.ensureMenu_sameBut h
  refine hensured.bind (fun _ t ht => ?_) fun _ t ht => ht.mono fun _ _ => False.elim
  refine Ensures.imp (P := fun _ u => MenusOnly (f.Linked item.id item.target.key s) t u) ?_
    fun _ _ h => (ht.mono fun _ _ => False.elim).trans h
  rw [hitem]
  refine Ensures.seq (ensures_asks (fun existing hexisting => ?_) fun e _ => .refl t)
  refine Ensures.trans .trans (ensures_forM (fun j hj u hu => ?_) (.refl t)) fun _ u _ => ?_
  · obtain ⟨hmem, hstale⟩ := List.mem_filter.1 hj
    refine (ensures_onMenus_only fun menus h => (Menu.Service.dropItem_sameBut h).mono ?_).imp
      fun _ _ h => hu.trans h
    rintro code i ⟨rfl, hi⟩
    obtain ⟨menus, rfl, hsame⟩ := ht
    rw [Menu.Service.listItems_eq_ok hexisting] at hmem
    refine ⟨rfl, .inr ⟨j, (hsame _ j id).1 hmem, hi.symm, ?_⟩⟩
    simp only [isStale, Bool.and_eq_true, beq_iff_eq] at hstale
    simp only [hstale]
  · dsimp only
    split
    · exact Ensures.trans .trans (ensures_updateItem hcode _) fun _ v _ => ensures_pure (.refl v)
    · refine Ensures.trans .trans (Ensures.attempt (ensures_addItem hcode hid _)) fun r v _ => ?_
      cases r with
      | ok i => exact Ensures.seq (ensures_pure (ensures_pure (.refl v)))
      | error e =>
        dsimp only
        split
        · exact Ensures.trans .trans (ensures_updateItem hcode _)
            fun _ w _ => ensures_pure (.refl w)
        · exact Ensures.seq (ensures_throw (.refl v))

theorem build_eq_ok {b : Builder} {p : Panel} (h : b.build = .ok p) :
    p.name = Text.key b.name ∧ b.source = some p.source ∧ p.hooks = b.hooks := by
  unfold Builder.build at h
  dsimp only at h
  generalize Text.key b.name = name at h ⊢
  obtain ⟨-, h⟩ := refuse_eq_ok.1 h
  split at h
  · rename_i source hsource
    obtain ⟨_, hok, h⟩ := bind_eq_ok.1 h
    obtain ⟨_, -, h⟩ := bind_eq_ok.1 h
    obtain ⟨_, -, h⟩ := bind_eq_ok.1 h
    cases hok
    cases h
    exact ⟨rfl, hsource, rfl⟩
  · cases h

section

variable {runtime : Workflow.Runtime} {environment slug : String} {p : Panel}

theorem buildPanel_name (h : f.buildPanel runtime ctx c environment slug = .ok p) :
    p.name = Text.key (panelName slug environment) := by
  unfold buildPanel at h
  obtain ⟨lifecycle, -, h⟩ := bind_eq_ok.1 h
  exact (build_eq_ok h).1

theorem buildPanel_source (h : f.buildPanel runtime ctx c environment slug = .ok p) :
    p.source = .content c := by
  unfold buildPanel at h
  obtain ⟨lifecycle, -, h⟩ := bind_eq_ok.1 h
  exact (Option.some.inj (build_eq_ok h).2.1).symm

theorem buildPanel_hooks (h : f.buildPanel runtime ctx c environment slug = .ok p) :
    p.hooks = .none := by
  unfold buildPanel at h
  obtain ⟨lifecycle, -, h⟩ := bind_eq_ok.1 h
  exact (build_eq_ok h).2.2

end

structure Housed (f : Factory) (c : ContentType) (slug name : String) (s : Site)
    (r : Except Fault Panel) (t : Site) : Prop where
  touches : Touches name (f.Linked (f.itemId c slug name) name s) s t
  present : ∀ p, r = .ok p → t.registry.contains name = true

theorem ensures_link {environment slug name : String}
    (hname : Text.key (panelName slug environment) = name) (f : Factory)
    (runtime : Workflow.Runtime) (ctx : Context) (c : ContentType) (position : Option Int)
    (s : Site) :
    (f.link runtime ctx c environment slug position).Ensures s (f.Housed c slug name s) := by
  have hrefused : ∀ e, f.Housed c slug name s (.error e) s :=
    fun e => ⟨⟨rfl, fun _ _ => .refl _ _, .refl _⟩, by rintro p ⟨⟩⟩
  unfold link
  extract_lets rest
  have hrest : (rest ()).Ensures s (f.Housed c slug name s) := by
    refine Ensures.seq (ensures_ofExcept (fun p hp => ?_) fun e _ => hrefused e)
    obtain rfl : p.name = name := (buildPanel_name hp).trans hname
    have hothers : ∀ a other, other ≠ p.name →
        s.registry.SameAt ((s.registry.put p).adapt p.name a) other :=
      fun a other h => (Registry.sameAt_put _ h).trans (Registry.sameAt_adapt _ a h)
    have hput : (s.registry.put p).contains p.name = true := by
      simp [Registry.contains, Registry.put, Dict.contains]
    refine Ensures.seq (ensures_change (Ensures.seq (ensures_change ?_)))
    dsimp only
    split
    · refine (ensures_linkMenu f ctx p c slug position _).bind ?_ ?_
      · rintro itemId _ ⟨menus, rfl, hmenus⟩
        refine Ensures.seq (ensures_change (ensures_pure ⟨⟨rfl, ?_, hmenus⟩, fun _ _ => hput⟩))
        exact fun other h => (hothers _ other h).trans (Registry.sameAt_attach _ _ h)
      · rintro e _ ⟨menus, rfl, hmenus⟩
        exact ⟨⟨rfl, hothers _, hmenus⟩, by rintro p ⟨⟩⟩
    · exact ensures_pure ⟨⟨rfl, hothers _, .refl _⟩, fun _ _ => hput⟩
  split
  · exact Ensures.seq (ensures_ofExcept (fun _ _ => hrest) fun e _ => hrefused e)
  · exact hrest

abbrev scope (ctx : Context) (c : ContentType) (names : String → Prop)
    (items : String → Menu.Item → Prop) : Footprint :=
  ⟨environmentFor ctx c, c.id, names, items⟩

def ownName (ctx : Context) (c : ContentType) : String :=
  panelName c.panelSlug (environmentFor ctx c)

theorem isKey_panelName {slug environment : String} (hslug : Text.IsKey slug.toList)
    (henvironment : Text.IsKey environment.toList) :
    Text.IsKey (panelName slug environment).toList := by
  unfold panelName
  split
  · exact hslug
  · have hat : ('@' : Char).toNat ∉ 0x130 :: Text.movedPoints := by decide +kernel
    have happend := hslug.append henvironment (Text.settled_of_not_mem hat) (by decide)
    simpa [String.toList_append] using happend

theorem isKey_environmentFor (ctx : Context) (c : ContentType) :
    Text.IsKey (environmentFor ctx c).toList := by
  unfold environmentFor
  dsimp only
  split <;> exact Text.isKey_key _

theorem key_ownName (ctx : Context) (c : ContentType) :
    Text.key (panelName c.panelSlug (environmentFor ctx c)) = ownName ctx c :=
  Text.key_of_isKey (isKey_panelName (Text.isKey_key _) (isKey_environmentFor ctx c))

def goneName (s : Site) (ctx : Context) (c : ContentType) : String :=
  panelName ((s.slug? (environmentFor ctx c) c.id).getD c.panelSlug) (environmentFor ctx c)

structure Cleaned (ctx : Context) (c : ContentType) (s t : Site) : Prop where
  slugs : t.slugs = (s.withSlug (environmentFor ctx c) c.id none).slugs
  names : ∀ name, t.registry.contains name = true ↔ s.registry.contains name = true ∧
    ((s.slug? (environmentFor ctx c) c.id).getD c.panelSlug ≠ "" → name ≠ goneName s ctx c)

structure Exposed (ctx : Context) (c : ContentType) (s t : Site) : Prop where
  slug : c.panelSlug ≠ ""
  slugs : t.slugs = (s.withSlug (environmentFor ctx c) c.id (some c.panelSlug)).slugs
  names : ∀ name, t.registry.contains name = true ↔
    name = ownName ctx c ∨ s.registry.contains name = true

theorem contains_erase (r : Registry) (name other : String) :
    (r.erase name).contains other = true ↔ r.contains other = true ∧ other ≠ name := by
  rw [Registry.contains, Registry.erase, Dict.contains, Dict.get?_erase]
  split <;> simp_all [Registry.contains, Dict.contains]

theorem Housed.contains {slug name : String} {p : Panel} (h : f.Housed c slug name s (.ok p) t)
    (other : String) : t.registry.contains other = true ↔
      other = name ∨ s.registry.contains other = true := by
  by_cases heq : other = name
  · subst heq
    simp [h.present p rfl]
  · have hsame := (h.touches.registry other heq).panel
    simp [heq, Registry.contains, Dict.contains, hsame]

variable {names : String → Prop} {items : String → Menu.Item → Prop}

structure Admits (f : Factory) (ctx : Context) (c : ContentType) (names : String → Prop)
    (items : String → Menu.Item → Prop) (s : Site) : Prop where
  attached : ∀ name, names name → ∀ code i, s.Attached name code i → items code i
  linked : ∀ code i,
    f.Linked (f.itemId c c.panelSlug (ownName ctx c)) (ownName ctx c) s code i → items code i

theorem ensures_cleanup (hs : f.Admits ctx c names items s) (hname : names (goneName s ctx c)) :
    (f.cleanup ctx c (environmentFor ctx c)).Ensures s
      (Ends (scope ctx c names items) s (Cleaned ctx c s)) := by
  refine Ensures.seq (ensures_reads (Ensures.seq (ensures_change ?_)))
  dsimp only
  split
  · rename_i hslug
    refine (ensures_detach f ctx _ _).imp fun r t h => ⟨?_, ?_⟩
    · exact Site.confined_release.trans (h.touches.confined hname (hs.attached _ hname))
    · rintro _ rfl
      refine ⟨h.slugs, fun name => ?_⟩
      rw [h.erased, contains_erase]
      exact and_congr Iff.rfl ⟨fun hne _ => hne, fun hne => hne (bne_iff_ne.1 hslug)⟩
  · rename_i hslug
    refine ensures_pure ⟨Site.confined_release, fun _ _ => ⟨rfl, fun name => ?_⟩⟩
    exact ⟨fun h => ⟨h, fun hne => absurd (bne_iff_ne.2 hne) hslug⟩, And.left⟩

theorem ensures_createAt_hidden (hc : c.status.exposesPanel = false)
    (hs : f.Admits ctx c names items s) (hname : names (goneName s ctx c))
    (runtime : Workflow.Runtime) (position : Option Int) :
    (f.createAt runtime ctx c position).Ensures s
      (Ends (scope ctx c names items) s (Cleaned ctx c s)) := by
  have hrest : (do
      f.cleanup ctx c (environmentFor ctx c)
      pure none : Call Site (Option Panel)).Ensures s
        (Ends (scope ctx c names items) s (Cleaned ctx c s)) := by
    refine (ensures_cleanup hs hname).bind (fun _ t h => ?_) fun e t h => ?_
    · exact ensures_pure ⟨h.confined, fun _ _ => h.done () rfl⟩
    · exact ⟨h.confined, by rintro _ ⟨⟩⟩
  refine Ensures.seq (ensures_ofExcept (fun _ _ => ?_) fun e _ => ends_refused e)
  dsimp only
  rw [if_neg (Bool.eq_false_iff.1 hc)]
  split
  · exact Ensures.seq (ensures_ofExcept (fun _ _ => hrest) fun e _ => ends_refused e)
  · exact hrest

theorem ensures_createAt_exposed (hc : c.status.exposesPanel = true)
    (hs : f.Admits ctx c names items s) (hname : names (ownName ctx c))
    (runtime : Workflow.Runtime) (position : Option Int) :
    (f.createAt runtime ctx c position).Ensures s
      (Ends (scope ctx c names items) s (Exposed ctx c s)) := by
  refine Ensures.seq (ensures_ofExcept (fun _ _ => ?_) fun e _ => ends_refused e)
  dsimp only
  rw [if_pos hc]
  split
  · exact Ensures.seq (ensures_throw (ends_refused _))
  · rename_i hblank
    have hslug : c.panelSlug ≠ "" := fun h => hblank (beq_iff_eq.2 h)
    refine Ensures.seq (ensures_reserve (fun hfree => ?_) fun e _ => ends_refused e)
    refine Ensures.seq (Ensures.attempt ((ensures_link (key_ownName ctx c) f runtime ctx c
      position _).imp fun r t h => ?_))
    cases r with
    | ok p =>
      refine ensures_pure ⟨(Site.confined_reserve hslug hfree).trans
        (h.touches.confined hname hs.linked), fun _ _ => ?_⟩
      exact ⟨hslug, h.touches.slugs, h.contains⟩
    | error e =>
      have hrestored : Confined (scope ctx c names items) s (t.withSlug (environmentFor ctx c) c.id
          (s.slug? (environmentFor ctx c) c.id)) :=
        h.touches.restored hname hs.linked
      refine Ensures.seq (ensures_change ?_)
      exact ensures_throw ⟨hrestored, fun _ h => by cases h⟩

theorem ensures_remove (hs : f.Admits ctx c names items s) (hname : names (goneName s ctx c)) :
    (f.remove ctx c).Ensures s (Ends (scope ctx c names items) s (Cleaned ctx c s)) :=
  Ensures.seq (ensures_ofExcept (fun _ _ => ensures_cleanup hs hname) fun e _ => ends_refused e)

structure Left (ctx : Context) (c : ContentType) (old : String) (exposes : Bool) (s t : Site) :
    Prop where
  slugs : t.slugs = (s.withSlug (environmentFor ctx c) c.id
    (if exposes then some c.panelSlug else none)).slugs
  registry : t.registry = s.registry.erase (panelName old (environmentFor ctx c))
  menus : Menu.Service.SameBut (s.Attached (panelName old (environmentFor ctx c))) s.menus t.menus
  exclusive : s.Exclusive → t.Exclusive

theorem ensures_leave_hidden {old : String} (hs : f.Admits ctx c names items s)
    (hname : names (panelName old (environmentFor ctx c))) :
    (f.leave ctx c (environmentFor ctx c) old false).Ensures s
      (Ends (scope ctx c names items) s (Left ctx c old false s)) := by
  refine Ensures.seq (ensures_reads (Ensures.seq (Ensures.attempt
    ((ensures_detach f ctx _ s).imp fun r t h => ?_))))
  have hconfined : Confined (scope ctx c names items) s t :=
    h.touches.confined hname (hs.attached _ hname)
  cases r with
  | ok _ =>
    have hreleased : Confined (scope ctx c names items) s
        (t.withSlug (environmentFor ctx c) c.id none) := hconfined.trans Site.confined_release
    refine Ensures.seq (ensures_change (ensures_pure ⟨hreleased, fun _ _ => ?_⟩))
    exact ⟨Site.withSlug_congr h.slugs _ _ _, h.erased, h.menus, hreleased.exclusive⟩
  | error e => exact ensures_throw ⟨hconfined, fun _ h => by cases h⟩

theorem ensures_leave_exposed {old : String} (hslug : c.panelSlug ≠ "")
    (hold : s.slug? (environmentFor ctx c) c.id = some old) (hs : f.Admits ctx c names items s)
    (hname : names (panelName old (environmentFor ctx c))) :
    (f.leave ctx c (environmentFor ctx c) old true).Ensures s
      (Ends (scope ctx c names items) s (Left ctx c old true s)) := by
  refine Ensures.seq (ensures_reserve (fun hfree => ?_) fun e _ => ends_refused e)
  refine Ensures.seq (ensures_reads (Ensures.seq (Ensures.attempt
    ((ensures_detach f ctx _ _).imp fun r t h => ?_))))
  cases r with
  | ok _ =>
    have hconfined : Confined (scope ctx c names items) s t :=
      (Site.confined_reserve hslug hfree).trans (h.touches.confined hname (hs.attached _ hname))
    exact ensures_pure ⟨hconfined, fun _ _ => ⟨h.slugs, h.erased, h.menus, hconfined.exclusive⟩⟩
  | error e =>
    have hrestored : Confined (scope ctx c names items) s
        (t.withSlug (environmentFor ctx c) c.id (s.slug? (environmentFor ctx c) c.id)) :=
      h.touches.restored hname (hs.attached _ hname)
    rw [hold] at hrestored
    exact Ensures.seq (ensures_change (ensures_throw ⟨hrestored, fun _ h => by cases h⟩))

theorem Left.admits {old : String} {exposes : Bool} (h : Left ctx c old exposes s t)
    (hs : f.Admits ctx c names items s) (hname : names (panelName old (environmentFor ctx c))) :
    f.Admits ctx c names items t := by
  constructor
  case attached =>
    rintro name hnames code i ⟨a, ha, hi⟩
    rw [h.registry, Registry.erase, Dict.get?_erase] at ha
    split at ha
    · cases ha
    · exact hs.attached name hnames code i ⟨a, ha, hi⟩
  case linked =>
    rintro code i ⟨hcode, hi | ⟨j, hj, hid, hkey⟩⟩
    · exact hs.linked code i ⟨hcode, .inl hi⟩
    · by_cases htouched : s.Attached (panelName old (environmentFor ctx c)) code j
      · obtain ⟨a, ha, hcode', hid'⟩ := htouched
        exact hs.attached _ hname code i ⟨a, ha, hcode', hid.symm.trans hid'⟩
      · exact hs.linked code i ⟨hcode, .inr ⟨j, (h.menus code j htouched).1 hj, hid, hkey⟩⟩

theorem Left.slug? {old : String} {exposes : Bool} (h : Left ctx c old exposes s t) :
    t.slug? (environmentFor ctx c) c.id = if exposes then some c.panelSlug else none := by
  rw [Site.slug?_congr h.slugs, Site.slug?_withSlug, if_pos ⟨rfl, rfl⟩]

theorem Left.goneName {old : String} {exposes : Bool} (h : Left ctx c old exposes s t) :
    goneName t ctx c = ownName ctx c := by
  rw [Factory.goneName, h.slug?]
  cases exposes <;> rfl

theorem Left.contains {old : String} {exposes : Bool} (h : Left ctx c old exposes s t)
    (name : String) : t.registry.contains name = true ↔
      s.registry.contains name = true ∧ name ≠ panelName old (environmentFor ctx c) := by
  rw [h.registry, contains_erase]

inductive Refreshed (ctx : Context) (c : ContentType) (done : Site → Site → Prop)
    (s u : Site) : Prop
  | stayed : (∀ old, s.slug? (environmentFor ctx c) c.id = some old → old = c.panelSlug) →
      done s u → Refreshed ctx c done s u
  | moved {old exposes t} : s.slug? (environmentFor ctx c) c.id = some old → old ≠ c.panelSlug →
      Left ctx c old exposes s t → done t u → Refreshed ctx c done s u

theorem ensures_refresh {done : Site → Site → Prop} (runtime : Workflow.Runtime)
    (hs : f.Admits ctx c names items s) (hown : names (ownName ctx c))
    (hold : ∀ old, s.slug? (environmentFor ctx c) c.id = some old →
      names (panelName old (environmentFor ctx c)))
    (hcreate : ∀ t position, f.Admits ctx c names items t → names (goneName t ctx c) →
      (f.createAt runtime ctx c position).Ensures t (Ends (scope ctx c names items) t (done t))) :
    (f.refresh runtime ctx c).Ensures s
      (Ends (scope ctx c names items) s (Refreshed ctx c done s)) := by
  refine Ensures.seq (ensures_ofExcept (fun _ _ => ?_) fun e _ => ends_refused e)
  refine Ensures.seq (ensures_reads ?_)
  dsimp only
  split
  · rename_i hleft
    have hsame : ∀ old, s.slug? (environmentFor ctx c) c.id = some old → old = c.panelSlug := by
      intro old h
      simpa [h] using hleft
    have hgone : names (goneName s ctx c) := by
      cases hslug : s.slug? (environmentFor ctx c) c.id with
      | none => simpa [goneName, hslug, ownName] using hown
      | some old => simpa [goneName, hslug] using hold old hslug
    exact (hcreate s none hs hgone).imp fun _ _ h =>
      ⟨h.confined, fun a ha => .stayed hsame (h.done a ha)⟩
  · rename_i old hleft
    obtain ⟨hslug, hne⟩ := Option.filter_eq_some_iff.1 hleft
    have hleave : ∀ exposes, (exposes = true → c.panelSlug ≠ "") →
        (f.leave ctx c (environmentFor ctx c) old exposes).Ensures s
          (Ends (scope ctx c names items) s (Left ctx c old exposes s)) := by
      rintro (_ | _) hexposes
      · exact ensures_leave_hidden hs (hold old hslug)
      · exact ensures_leave_exposed (hexposes rfl) hslug hs (hold old hslug)
    refine (hleave _ fun h => bne_iff_ne.1 (Bool.and_eq_true_iff.1 h).2).bind
      (fun position t ht => ?_) fun e t ht => ⟨ht.confined, fun _ h => by cases h⟩
    have hl := ht.done position rfl
    have hgone : names (goneName t ctx c) := by
      rw [hl.goneName]
      exact hown
    refine Ensures.seq (Ensures.attempt ((hcreate t position
      (hl.admits hs (hold old hslug)) hgone).imp fun r u h => ?_))
    cases r with
    | ok p =>
      refine ensures_pure ⟨ht.confined.trans h.confined, fun _ _ => ?_⟩
      exact .moved hslug (bne_iff_ne.1 hne) hl (h.done p rfl)
    | error e =>
      -- the panel from before is gone by now, so the slug is given up
      have hfailed := ht.confined.trans h.confined
      dsimp only
      split
      · refine Ensures.seq (ensures_change (ensures_throw ⟨?_, fun _ h => by cases h⟩))
        exact hfailed.trans Site.confined_release
      · exact ensures_throw ⟨hfailed, fun _ h => by cases h⟩

end Backoffice.Panel.Factory

import Backoffice.Panel.Site
import Backoffice.Proofs.Ensures
import Backoffice.Proofs.Menu

namespace Backoffice

theorem Reservation.isOf_iff {r : Reservation} {environment typeId : String} :
    r.isOf environment typeId = true ↔ r.environment = environment ∧ r.typeId = typeId := by
  simp [isOf]

namespace Site

open Call (Ensures ensures_atomic ensures_update ensures_change ensures_reads ensures_pure)

variable {s t u : Site} {environment typeId slug name : String}

theorem slug?_withSlug (s : Site) (environment typeId : String) (slug : Option String)
    (environment' typeId' : String) :
    (s.withSlug environment typeId slug).slug? environment' typeId' =
      if environment' = environment ∧ typeId' = typeId then slug
      else s.slug? environment' typeId' := by
  rw [slug?, withSlug, List.find?_append]
  split
  · rename_i h
    obtain ⟨rfl, rfl⟩ := h
    have hgone : (s.slugs.filter fun r => !r.isOf environment' typeId').find?
        (·.isOf environment' typeId') = none := by simp
    rw [hgone]
    cases slug <;> simp [Reservation.isOf]
  · rename_i h
    have hother : ∀ r : Reservation, r.isOf environment' typeId' →
        r.isOf environment typeId = false := by
      intro r hr
      obtain ⟨rfl, rfl⟩ := Reservation.isOf_iff.1 hr
      rw [← Bool.not_eq_true, Reservation.isOf_iff]
      exact h
    have hnew : (slug.toList.map fun slug => (⟨environment, typeId, slug⟩ : Reservation)).find?
        (·.isOf environment' typeId') = none := by
      rw [List.find?_eq_none]
      intro r hr hof
      obtain ⟨_, -, rfl⟩ := List.mem_map.1 hr
      have hself := hother _ hof
      simp [Reservation.isOf] at hself
    rw [hnew, Option.or_none, List.find?_filter, slug?]
    congr 2
    funext r
    cases hof : r.isOf environment' typeId' with
    | false => simp
    | true => simp [hother r hof]

theorem mem_of_slug? (h : s.slug? environment typeId = some slug) :
    ⟨environment, typeId, slug⟩ ∈ s.slugs := by
  obtain ⟨r, hr, rfl⟩ := Option.map_eq_some_iff.1 h
  have hof := List.find?_some hr
  obtain ⟨rfl, rfl⟩ := Reservation.isOf_iff.1 hof
  exact List.mem_of_find?_eq_some hr

theorem isTaken_eq_false_iff : s.isTaken environment typeId slug = false ↔
    ∀ r ∈ s.slugs, r.environment = environment → r.slug = slug → r.typeId = typeId := by
  simp [isTaken]

structure Exclusive (s : Site) : Prop where
  pairwise : s.slugs.Pairwise fun r r' => r.environment = r'.environment →
    r.typeId ≠ r'.typeId ∧ r.slug ≠ r'.slug
  named : ∀ r ∈ s.slugs, r.slug ≠ ""

theorem Exclusive.congr (hs : s.Exclusive) (h : t.slugs = s.slugs) : t.Exclusive := by
  constructor <;> rw [h]
  · exact hs.pairwise
  · exact hs.named

theorem Exclusive.eq (hs : s.Exclusive) {r r' : Reservation} (hr : r ∈ s.slugs) (hr' : r' ∈ s.slugs)
    (henvironment : r.environment = r'.environment) (h : r.typeId = r'.typeId ∨ r.slug = r'.slug) :
    r = r' := by
  have hne : ∀ {a b : Reservation}, (a.environment = b.environment →
      a.typeId ≠ b.typeId ∧ a.slug ≠ b.slug) → a.environment = b.environment →
      a.typeId = b.typeId ∨ a.slug = b.slug → a = b :=
    fun hdiff henv hsame => (hsame.elim (hdiff henv).1 (hdiff henv).2).elim
  refine List.Pairwise.forall_of_forall_of_flip (R := fun a b => a.environment = b.environment →
    a.typeId = b.typeId ∨ a.slug = b.slug → a = b) ?_ ?_ ?_ hr hr' henvironment h
  · intro a _ _ _
    rfl
  · exact hs.pairwise.imp hne
  · exact hs.pairwise.imp fun hdiff henv hsame =>
      (hne hdiff henv.symm (hsame.imp Eq.symm Eq.symm)).symm

theorem Exclusive.mem_slugs_iff (hs : s.Exclusive) {r : Reservation} :
    r ∈ s.slugs ↔ s.slug? r.environment r.typeId = some r.slug := by
  constructor
  · intro hr
    have hof : r.isOf r.environment r.typeId = true := Reservation.isOf_iff.2 ⟨rfl, rfl⟩
    obtain ⟨r', hr'⟩ := Option.isSome_iff_exists.1 (List.find?_isSome.2 ⟨r, hr, hof⟩)
    obtain ⟨henvironment, htype⟩ := Reservation.isOf_iff.1 (List.find?_some hr')
    rw [slug?, hr', hs.eq (List.mem_of_find?_eq_some hr') hr henvironment (.inl htype)]
    rfl
  · exact mem_of_slug?

theorem Exclusive.typeId_eq (hs : s.Exclusive) {typeId' : String}
    (h : s.slug? environment typeId = some slug) (h' : s.slug? environment typeId' = some slug) :
    typeId = typeId' :=
  congrArg Reservation.typeId (hs.eq (mem_of_slug? h) (mem_of_slug? h') rfl (.inr rfl))

theorem isTaken_of_slug? {typeId' : String} (h : s.slug? environment typeId' = some slug)
    (hne : typeId' ≠ typeId) : s.isTaken environment typeId slug = true := by
  rw [← Bool.not_eq_false, isTaken_eq_false_iff]
  exact fun hall => hne (hall _ (mem_of_slug? h) rfl rfl)

theorem Exclusive.not_taken (hs : s.Exclusive) (h : s.slug? environment typeId = some slug) :
    s.isTaken environment typeId slug = false := by
  rw [isTaken_eq_false_iff]
  intro r hr henvironment hslug
  exact congrArg Reservation.typeId (hs.eq hr (mem_of_slug? h) henvironment (.inr hslug))

theorem Exclusive.withSlug (hs : s.Exclusive) {slug : Option String}
    (h : ∀ new ∈ slug, new ≠ "" ∧ s.isTaken environment typeId new = false) :
    (s.withSlug environment typeId slug).Exclusive := by
  constructor
  case pairwise =>
    refine List.pairwise_append.2 ⟨hs.pairwise.filter _, by cases slug <;> simp, ?_⟩
    intro r hr r' hr' henvironment
    obtain ⟨new, hnew, rfl⟩ := List.mem_map.1 hr'
    obtain ⟨hmem, hother⟩ := List.mem_filter.1 hr
    have hne : r.typeId ≠ typeId := by
      intro htype
      rw [Reservation.isOf_iff.2 ⟨henvironment, htype⟩] at hother
      cases hother
    have hfree := (h new (Option.mem_toList.1 hnew)).2
    exact ⟨hne, fun hslug => hne (isTaken_eq_false_iff.1 hfree r hmem henvironment hslug)⟩
  case named =>
    intro r hr
    rcases List.mem_append.1 hr with hr | hr
    · exact hs.named r (List.mem_filter.1 hr).1
    · obtain ⟨new, hnew, rfl⟩ := List.mem_map.1 hr
      exact (h new (Option.mem_toList.1 hnew)).1

theorem withSlug_withSlug (s : Site) (environment typeId : String) (x y : Option String) :
    (s.withSlug environment typeId x).withSlug environment typeId y =
      s.withSlug environment typeId y := by
  have hnew : (x.toList.map fun slug => (⟨environment, typeId, slug⟩ : Reservation)).filter
      (fun r => !r.isOf environment typeId) = [] := by
    cases x <;> simp [Reservation.isOf]
  simp only [withSlug, List.filter_append, List.filter_filter, hnew, Bool.and_self,
    List.append_nil]

theorem ensures_reserve {P : Except Fault (Option String) → Site → Prop}
    (hok : s.isTaken environment typeId slug = false →
      P (.ok (s.slug? environment typeId)) (s.withSlug environment typeId (some slug)))
    (herror : ∀ e, s.isTaken environment typeId slug = true → P (.error e) s) :
    (reserve environment typeId slug).Ensures s P := by
  refine ensures_atomic (fun a t h => ?_) fun e h => ?_ <;> split at h
  · cases h
  · rename_i htaken
    cases h
    exact hok (Bool.eq_false_iff.2 htaken)
  · rename_i htaken
    exact herror e htaken
  · cases h

theorem ensures_onMenus {f : Menu.Service → Except Fault Menu.Service}
    {P : Except Fault Unit → Site → Prop}
    (hok : ∀ menus, f s.menus = .ok menus → P (.ok ()) { s with menus })
    (herror : ∀ e, f s.menus = .error e → P (.error e) s) : (onMenus f).Ensures s P := by
  refine ensures_update (fun t h => ?_) fun e h => ?_
  · obtain ⟨menus, hmenus, h⟩ := bind_eq_ok.1 h
    cases h
    exact hok menus hmenus
  · rcases bind_eq_error.1 h with h | ⟨_, -, h⟩
    · exact herror e h
    · cases h

end Site

namespace Panel.Registry

/-- The same panel, adapter and attachment under a name. -/
structure SameAt (r r' : Registry) (name : String) : Prop where
  panel : r'.panels.get? name = r.panels.get? name
  adapter : r'.adapters.get? name = r.adapters.get? name
  attachment : r'.attachments.get? name = r.attachments.get? name

variable {r r' r'' : Registry} {name name' : String}

theorem SameAt.refl (r : Registry) (name : String) : r.SameAt r name := ⟨rfl, rfl, rfl⟩

theorem SameAt.trans (h : r.SameAt r' name) (h' : r'.SameAt r'' name) : r.SameAt r'' name :=
  ⟨h'.panel.trans h.panel, h'.adapter.trans h.adapter, h'.attachment.trans h.attachment⟩

theorem sameAt_put (r : Registry) {p : Panel} (h : name ≠ p.name) : r.SameAt (r.put p) name :=
  ⟨Dict.get?_set_ne _ h _, rfl, rfl⟩

theorem sameAt_adapt (r : Registry) (a : Adapter) (h : name ≠ name') :
    r.SameAt (r.adapt name' a) name :=
  ⟨rfl, Dict.get?_set_ne _ h _, rfl⟩

theorem sameAt_attach (r : Registry) (a : Attachment) (h : name ≠ name') :
    r.SameAt (r.attach name' a) name :=
  ⟨rfl, rfl, Dict.get?_set_ne _ h _⟩

theorem sameAt_erase (r : Registry) (h : name ≠ name') : r.SameAt (r.erase name') name :=
  ⟨Dict.get?_erase_ne _ h, Dict.get?_erase_ne _ h, Dict.get?_erase_ne _ h⟩

end Panel.Registry

namespace Site

open Call (Ensures ensures_reads ensures_change ensures_pure)

variable {s t u : Site} {name : String}

def Attached (s : Site) (name code : String) (i : Menu.Item) : Prop :=
  ∃ a, s.registry.attachments.get? name = some a ∧ Menu.Service.withId a.menuCode a.itemId code i

def MenusOnly (touched : String → Menu.Item → Prop) (s t : Site) : Prop :=
  ∃ menus, t = { s with menus } ∧ Menu.Service.SameBut touched s.menus menus

variable {touched : String → Menu.Item → Prop}

theorem MenusOnly.refl (s : Site) : MenusOnly touched s s := ⟨s.menus, rfl, .refl _⟩

theorem MenusOnly.trans (hst : MenusOnly touched s t) (htu : MenusOnly touched t u) :
    MenusOnly touched s u := by
  obtain ⟨menus, rfl, hmenus⟩ := hst
  obtain ⟨menus', rfl, hmenus'⟩ := htu
  exact ⟨menus', rfl, hmenus.trans hmenus'⟩

theorem MenusOnly.mono {touched' : String → Menu.Item → Prop} (h : MenusOnly touched s t)
    (hsub : ∀ code i, touched code i → touched' code i) : MenusOnly touched' s t := by
  obtain ⟨menus, rfl, hmenus⟩ := h
  exact ⟨menus, rfl, hmenus.mono hsub⟩

theorem ensures_onMenus_only {f : Menu.Service → Except Fault Menu.Service}
    (h : ∀ menus, f s.menus = .ok menus → Menu.Service.SameBut touched s.menus menus) :
    (onMenus f).Ensures s fun _ t => MenusOnly touched s t :=
  ensures_onMenus (fun menus hmenus => ⟨menus, rfl, h menus hmenus⟩) fun _ _ => MenusOnly.refl s

theorem ensures_menus_only {α : Type} {g : Menu.Service → Except Fault (α × Menu.Service)}
    (h : ∀ a menus, g s.menus = .ok (a, menus) → Menu.Service.SameBut touched s.menus menus) :
    (Call.atomic fun s : Site => do
      let (a, menus) ← g s.menus
      .ok (a, { s with menus })).Ensures s fun _ t => MenusOnly touched s t := by
  refine Call.ensures_atomic (fun a t ht => ?_) fun _ _ => MenusOnly.refl s
  obtain ⟨x, hx, ht⟩ := bind_eq_ok.1 ht
  cases ht
  exact ⟨x.2, rfl, h x.1 x.2 hx⟩

structure Touches (name : String) (items : String → Menu.Item → Prop) (s t : Site) : Prop where
  slugs : t.slugs = s.slugs
  registry : ∀ other, other ≠ name → s.registry.SameAt t.registry other
  menus : Menu.Service.SameBut items s.menus t.menus

structure Footprint where
  environment : String
  typeId : String
  names : String → Prop
  items : String → Menu.Item → Prop

structure Confined (fp : Footprint) (s t : Site) : Prop where
  slug : ∀ environment typeId, ¬(environment = fp.environment ∧ typeId = fp.typeId) →
    t.slug? environment typeId = s.slug? environment typeId
  registry : ∀ name, ¬fp.names name → s.registry.SameAt t.registry name
  menus : Menu.Service.SameBut fp.items s.menus t.menus
  exclusive : s.Exclusive → t.Exclusive

variable {fp : Footprint} {items : String → Menu.Item → Prop}

theorem Confined.refl (fp : Footprint) (s : Site) : Confined fp s s :=
  ⟨fun _ _ _ => rfl, fun _ _ => .refl _ _, .refl _, id⟩

theorem Confined.trans (hst : Confined fp s t) (htu : Confined fp t u) : Confined fp s u where
  slug environment typeId h := (htu.slug environment typeId h).trans (hst.slug environment typeId h)
  registry name h := (hst.registry name h).trans (htu.registry name h)
  menus := hst.menus.trans htu.menus
  exclusive h := htu.exclusive (hst.exclusive h)

structure Ends {α : Type} (fp : Footprint) (s : Site) (done : Site → Prop) (r : Except Fault α)
    (t : Site) : Prop where
  confined : Confined fp s t
  done : ∀ a, r = .ok a → done t

theorem ends_refused {α : Type} {done : Site → Prop} (e : Fault) :
    Ends fp s done (.error e : Except Fault α) s :=
  ⟨.refl fp s, by rintro a ⟨⟩⟩

theorem slug?_congr (h : t.slugs = s.slugs) (environment typeId : String) :
    t.slug? environment typeId = s.slug? environment typeId := by
  rw [slug?, slug?, h]

theorem Touches.confined (h : Touches name items s t) (hname : fp.names name)
    (hitems : ∀ code i, items code i → fp.items code i) : Confined fp s t where
  slug := fun environment typeId _ => slug?_congr h.slugs environment typeId
  registry other hother := h.registry other fun heq => hother (heq ▸ hname)
  menus := h.menus.mono hitems
  exclusive hs := hs.congr h.slugs

variable {environment typeId slug : String} {names : String → Prop}

theorem confined_withSlug {slug : Option String}
    (h : ∀ new ∈ slug, new ≠ "" ∧ s.isTaken environment typeId new = false) :
    Confined ⟨environment, typeId, names, items⟩ s (s.withSlug environment typeId slug) where
  slug environment' typeId' hother := by rw [slug?_withSlug, if_neg hother]
  registry _ _ := .refl _ _
  menus := .refl _
  exclusive hs := hs.withSlug h

theorem confined_reserve (hslug : slug ≠ "") (h : s.isTaken environment typeId slug = false) :
    Confined ⟨environment, typeId, names, items⟩ s (s.withSlug environment typeId (some slug)) :=
  confined_withSlug fun _ hnew => Option.some.inj hnew ▸ ⟨hslug, h⟩

theorem confined_release :
    Confined ⟨environment, typeId, names, items⟩ s (s.withSlug environment typeId none) :=
  confined_withSlug fun _ hnew => by cases hnew

theorem withSlug_congr (h : t.slugs = s.slugs) (environment typeId : String)
    (slug : Option String) :
    (t.withSlug environment typeId slug).slugs = (s.withSlug environment typeId slug).slugs := by
  rw [withSlug, withSlug, h]

theorem Touches.restored {slug : Option String}
    (h : Touches name touched (s.withSlug environment typeId slug) t) (hname : names name)
    (hitems : ∀ code i, touched code i → items code i) :
    Confined ⟨environment, typeId, names, items⟩ s
      (t.withSlug environment typeId (s.slug? environment typeId)) := by
  have hslugs := (withSlug_congr h.slugs environment typeId (s.slug? environment typeId)).trans
    (congrArg Site.slugs (withSlug_withSlug s environment typeId slug _))
  constructor
  case slug =>
    intro environment' typeId' hother
    rw [slug?_congr hslugs, slug?_withSlug, if_neg hother]
  case registry => exact fun other hother => h.registry other fun heq => hother (heq ▸ hname)
  case menus => exact h.menus.mono hitems
  case exclusive =>
    intro hs
    refine Exclusive.congr (hs.withSlug fun new hnew => ?_) hslugs
    exact ⟨hs.named _ (mem_of_slug? hnew), hs.not_taken hnew⟩

theorem ensures_unregister (s : Site) (ctx : Context) (name : String) :
    (unregister ctx name).Ensures s fun _ t => t.slugs = s.slugs ∧
      t.registry = s.registry.erase name ∧
        Menu.Service.SameBut (s.Attached name) s.menus t.menus := by
  refine Ensures.seq (ensures_reads (Ensures.seq (ensures_change ?_)))
  dsimp only
  split
  · rename_i a ha
    split
    · refine Ensures.seq (ensures_onMenus (fun menus h => ensures_pure ?_) fun e _ => ?_)
      · refine ⟨rfl, rfl, (Menu.Service.dropItem_sameBut h).mono ?_⟩
        exact fun _ _ hi => ⟨a, ha, hi⟩
      · exact ⟨rfl, rfl, Menu.Service.SameBut.refl _⟩
    · exact ensures_pure ⟨rfl, rfl, Menu.Service.SameBut.refl _⟩
  · exact ensures_pure ⟨rfl, rfl, Menu.Service.SameBut.refl _⟩

end Site

end Backoffice

import Backoffice.Proofs.Panel.Entries

namespace Backoffice

theorem Call.attempt_bind_eq_ok {σ α β : Type} {c : Call σ α} {k : Except Fault α → Call σ β}
    (hk : ∀ e s t b, k (.error e) s ≠ (.ok b, t)) {s t : Supply × σ} {b : β} :
    (c.attempt >>= k) s = (.ok b, t) ↔ ∃ a s', c s = (.ok a, s') ∧ k (.ok a) s' = (.ok b, t) := by
  rw [bind_apply, attempt]
  rcases c s with ⟨e | a, s'⟩
  · exact ⟨fun h => absurd h (hk e s' t b), by rintro ⟨_, _, ⟨⟩, -⟩⟩
  · exact ⟨fun h => ⟨a, s', rfl, h⟩, by rintro ⟨_, _, ⟨⟩, h⟩; exact h⟩

theorem Call.bind_throw_ne_ok {σ α β : Type} (c : Call σ α) (e : Fault) (s t : Supply × σ) (b : β) :
    (c >>= fun _ => throw e) s ≠ (.ok b, t) := by
  intro h
  obtain ⟨_, _, -, h⟩ := bind_apply_eq_ok.1 h
  cases h

namespace Panel.Registry

variable {r r' : Registry} {name : String}

structure Vacant (r : Registry) (name : String) : Prop where
  panel : r.panels.get? name = none
  adapter : r.adapters.get? name = none
  attachment : r.attachments.get? name = none

theorem vacant_erase (r : Registry) (name : String) : (r.erase name).Vacant name :=
  ⟨Dict.get?_erase_self _ _, Dict.get?_erase_self _ _, Dict.get?_erase_self _ _⟩

theorem Vacant.congr (h : r.Vacant name) (hsame : r.SameAt r' name) : r'.Vacant name :=
  ⟨hsame.panel.trans h.panel, hsame.adapter.trans h.adapter, hsame.attachment.trans h.attachment⟩

end Panel.Registry

namespace Panel.Factory

open Menu (Item)

variable {f : Factory} {runtime : Workflow.Runtime} {ctx : Context} {supply : Supply} {s t : Site}
  {c : ContentType} {p : Panel} {old : String} {i new : Item} {a : Attachment}

def vacated (ctx : Context) (c : ContentType) (old : String) (s : Site) : Site :=
  (s.withSlug (environmentFor ctx c) c.id (some c.panelSlug)).detached
    (panelName old (environmentFor ctx c))

theorem orderly_vacated (hs : s.menus.Orderly) : (vacated ctx c old s).menus.Orderly :=
  Site.orderly_detached (s := s.withSlug (environmentFor ctx c) c.id (some c.panelSlug)) hs _

theorem leave_eq (hmenus : f.hasMenus = true) (hs : s.menus.Orderly)
    (hactive : ctx.cancelled = false) (supply : Supply) (c : ContentType) (old : String) :
    f.leave ctx c (environmentFor ctx c) old true (supply, s) =
      if s.isTaken (environmentFor ctx c) c.id c.panelSlug then
        (.error (.conflict ("panel slug already registered: " ++ c.panelSlug)), supply, s)
      else (.ok (f.position? s ctx (panelName old (environmentFor ctx c))), supply,
        vacated ctx c old s) := by
  have hreserve := Site.reserve_apply (environmentFor ctx c) c.id c.panelSlug supply s
  have hdetach : f.detach ctx (panelName old (environmentFor ctx c))
      (supply, s.withSlug (environmentFor ctx c) c.id (some c.panelSlug)) =
        (.ok (), supply, vacated ctx c old s) :=
    detach_eq (s := s.withSlug (environmentFor ctx c) c.id (some c.panelSlug)) hmenus hs hactive _
  unfold leave
  rw [if_pos rfl]
  cases htaken : s.isTaken (environmentFor ctx c) c.id c.panelSlug with
  | true =>
    rw [htaken] at hreserve
    exact Call.bind_apply_error hreserve _
  | false =>
    rw [htaken] at hreserve
    refine (Call.bind_apply_ok hreserve _).trans ?_
    refine (Call.bind_apply_ok (Call.reads_apply _ _) _).trans ?_
    rw [Call.bind_apply, Call.attempt, hdetach]
    rfl

theorem refresh_eq_ok_iff (hmenus : f.hasMenus = true) (hs : s.menus.Orderly)
    (hc : c.status.exposesPanel = true)
    (hold : s.slug? (environmentFor ctx c) c.id = some old) (hne : old ≠ c.panelSlug)
    {a : Option Panel} {r : Supply × Site} :
    f.refresh runtime ctx c (supply, s) = (.ok a, r) ↔
      ∃ p, f.Makes runtime ctx c (f.position? s ctx (panelName old (environmentFor ctx c)))
          (vacated ctx c old s) p ∧ a = some p ∧
        r = (supply, f.made ctx c (f.position? s ctx (panelName old (environmentFor ctx c))) p
          (vacated ctx c old s)) := by
  have hmoves : (s.slug? (environmentFor ctx c) c.id).filter (· != c.panelSlug) = some old := by
    rw [hold, Option.filter_some, if_pos (by simpa using hne)]
  refine Call.ofExcept_bind_eq_ok.trans ?_
  rw [Call.bind_apply_ok (Call.reads_apply _ _)]
  dsimp only
  rw [hmoves, hc, Bool.true_and]
  constructor
  · rintro ⟨_, hactive, h⟩
    have hactive := Context.ensureActive_eq_ok.1 hactive
    obtain ⟨position, ⟨supply', s'⟩, hleave, h⟩ := Call.bind_apply_eq_ok.1 h
    obtain ⟨b, u, hcreate, h⟩ := (Call.attempt_bind_eq_ok fun e v w b => by
      dsimp only
      split
      · exact Call.bind_throw_ne_ok _ e v w b
      · rintro ⟨⟩).1 h
    cases h
    have hs' : s'.menus.Orderly := by
      have htidy := (tidies_leave f ctx c (environmentFor ctx c) old
        (c.panelSlug != "")).leaves s hs supply
      rwa [hleave] at htidy
    obtain ⟨p, hp, rfl, rfl⟩ := (createAt_eq_ok_iff hs' hc).1 hcreate
    rw [bne_iff_ne.2 hp.slug, leave_eq hmenus hs hactive] at hleave
    split at hleave
    · cases hleave
    · cases hleave
      exact ⟨p, hp, rfl, rfl⟩
  · rintro ⟨p, hp, rfl, rfl⟩
    have hfree : s.isTaken (environmentFor ctx c) c.id c.panelSlug = false :=
      (isTaken_withSlug_self s _ _ _ _).symm.trans hp.free
    have hleave := leave_eq hmenus hs hp.active supply c old
    rw [hfree, if_neg Bool.false_ne_true] at hleave
    refine ⟨(), Context.ensureActive_eq_ok.2 hp.active, ?_⟩
    rw [bne_iff_ne.2 hp.slug]
    refine (Call.bind_apply_ok hleave _).trans ?_
    rw [Call.bind_apply, Call.attempt, hp.createAt_eq (orderly_vacated hs) hc]
    rfl

theorem position?_eq_some (hmenus : f.hasMenus = true) (hs : s.menus.Orderly)
    (hactive : ctx.cancelled = false) {name : String}
    (ha : s.registry.attachments.get? name = some a)
    (hi : i ∈ s.menus.itemsAt (Text.key a.menuCode)) (hid : i.id = a.itemId) :
    f.position? s ctx name = i.position := by
  have hmenu : s.menus.menus.contains (Text.key a.menuCode) = true := by
    by_contra hnone
    rw [Menu.Service.itemsAt_of_not_contains (Bool.eq_false_iff.2 hnone)] at hi
    cases hi
  unfold position?
  rw [if_pos hmenus, ha, Option.bind_some, hs.getMenu hactive, hs.find_of_contains hmenu]
  dsimp only [Menu.item?]
  rw [← hid, (hs.distinct _).find? hi, Option.bind_some]

theorem id_ne_of_mem_vacated
    (ha : s.registry.attachments.get? (panelName old (environmentFor ctx c)) = some a)
    (hi : i ∈ (vacated ctx c old s).menus.itemsAt (Text.key a.menuCode)) : i.id ≠ a.itemId := by
  have hmenus : (vacated ctx c old s).menus = s.menus.without (Text.key a.menuCode) a.itemId := by
    unfold vacated Site.detached Site.withSlug
    dsimp only
    rw [ha]
  rw [hmenus, Menu.Service.itemsAt_without, if_pos rfl] at hi
  simpa using (List.mem_filter.1 hi).2

theorem adapter_registered (f : Factory) (c : ContentType) (p : Panel) (itemId : String)
    (r : Registry) (n : String) : (f.registered c p itemId r).adapters.get? n =
      if n = p.name then some ⟨p, titleField c p⟩ else r.adapters.get? n := by
  unfold registered
  split <;> exact Dict.get?_set _ _ _ _

theorem sameAt_registered (hmenus : f.hasMenus = true) (c : ContentType) (itemId : String)
    (r : Registry) {n : String} (h : n ≠ p.name) : r.SameAt (f.registered c p itemId r) n where
  panel := (get?_registered f c p itemId r n).trans (if_neg h)
  adapter := (adapter_registered f c p itemId r n).trans (if_neg h)
  attachment := (attachment_registered hmenus c p itemId r n).trans (if_neg h)

/-- The panel `p` of a content type has left the slug `old`, and `new` is its menu item. -/
structure Relocated (f : Factory) (ctx : Context) (c : ContentType) (old : String) (p : Panel)
    (new : Item) (s t : Site) : Prop where
  slug : t.slug? (environmentFor ctx c) c.id = some c.panelSlug
  left : t.registry.Vacant (panelName old (environmentFor ctx c))
  gone : ∀ a, s.registry.attachments.get? (panelName old (environmentFor ctx c)) = some a →
    ∀ i ∈ t.menus.itemsAt (Text.key a.menuCode), i.id = a.itemId → i = new
  source : p.source = .content c
  panel : t.registry.get? (ownName ctx c) = some p
  adapter : t.registry.adapters.get? (ownName ctx c) = some ⟨p, titleField c p⟩
  attachment : t.registry.attachments.get? (ownName ctx c) = some ⟨f.menuCode, new.id⟩
  entry : new ∈ f.entries t ∧ new.target.key = ownName ctx c
  position : ∀ a, s.registry.attachments.get? (panelName old (environmentFor ctx c)) = some a →
    ∀ i ∈ s.menus.itemsAt (Text.key a.menuCode), i.id = a.itemId →
      ∀ n, i.position = some n → new.position = some n
  others : ∀ name, name ≠ panelName old (environmentFor ctx c) → name ≠ ownName ctx c →
    s.registry.SameAt t.registry name

theorem relocated_made (hmenus : f.hasMenus = true) (hs : s.menus.Orderly)
    (hne : old ≠ c.panelSlug) {position : Option Int}
    (hposition : f.position? s ctx (panelName old (environmentFor ctx c)) = position)
    (hp : f.Makes runtime ctx c position (vacated ctx c old s) p) :
    f.Relocated ctx c old p
      (placed (f.menuItem ctx p c c.panelSlug position) (f.entries (vacated ctx c old s))) s
      (f.made ctx c position p (vacated ctx c old s)) := by
  have hname := hp.name
  have hapart : panelName old (environmentFor ctx c) ≠ p.name := by
    rw [hname]
    exact fun h => hne (panelName_injective h)
  have hitems : f.entries (f.made ctx c position p (vacated ctx c old s)) =
      relink (f.menuItem ctx p c c.panelSlug position) (f.entries (vacated ctx c old s)) :=
    itemsAt_made hmenus _
  constructor
  case slug => exact (Site.slug?_withSlug _ _ _ _ _ _).trans (if_pos ⟨rfl, rfl⟩)
  case left =>
    have herased : (vacated ctx c old s).registry.Vacant (panelName old (environmentFor ctx c)) :=
      Registry.vacant_erase _ _
    exact herased.congr (sameAt_registered hmenus c _ _ hapart)
  case gone =>
    intro a ha i hi hid
    by_cases hcode : Text.key a.menuCode = Text.key f.menuCode
    · rw [hcode, ← entries, hitems, mem_relink] at hi
      rcases hi with ⟨hi, -⟩ | hi
      · rw [entries, ← hcode] at hi
        exact absurd hid (id_ne_of_mem_vacated ha hi)
      · exact hi
    · rw [itemsAt_made_ne hcode] at hi
      exact absurd hid (id_ne_of_mem_vacated ha hi)
  case source => exact buildPanel_source hp.built
  case panel => exact (get?_registered f c p _ _ _).trans (if_pos hname.symm)
  case adapter => exact (adapter_registered f c p _ _ _).trans (if_pos hname.symm)
  case attachment => exact (attachment_registered hmenus c p _ _ _).trans (if_pos hname.symm)
  case entry =>
    refine ⟨?_, ?_⟩
    · rw [hitems]
      exact mem_relink.2 (.inr rfl)
    · rw [placed_target, menuItem_key, hname]
  case position =>
    intro a ha i hi hid n hn
    rw [position?_eq_some hmenus hs hp.active ha hi hid, hn] at hposition
    subst hposition
    rfl
  case others =>
    intro name hold hnew
    exact (Registry.sameAt_erase _ hold).trans (sameAt_registered hmenus c _ _ (hname ▸ hnew))

/-- A refresh under another slug that succeeds moves the panel. -/
theorem refresh_relocates (hmenus : f.hasMenus = true) (hs : Attainable f s)
    (hc : c.status.exposesPanel = true)
    (hold : s.slug? (environmentFor ctx c) c.id = some old) (hne : old ≠ c.panelSlug)
    {a : Option Panel} {later : Supply}
    (h : f.refresh runtime ctx c (supply, s) = (.ok a, later, t)) :
    ∃ p new, a = some p ∧ f.Relocated ctx c old p new s t := by
  obtain ⟨p, hp, rfl, hmade⟩ := (refresh_eq_ok_iff hmenus hs.orderly hc hold hne).1 h
  obtain ⟨rfl, rfl⟩ := Prod.mk.inj hmade
  exact ⟨p, _, rfl, relocated_made hmenus hs.orderly hne rfl hp⟩

theorem Attainable.exists_positioned (hs : Attainable f s) {code : String}
    (hi : i ∈ s.menus.itemsAt code) (hcode : Text.key i.menuCode = code) (n : Int) :
    ∃ menus, Attainable f { s with menus } ∧
      { i with position := some n } ∈ menus.itemsAt code := by
  subst hcode
  have hactive : Context.empty.cancelled = false := rfl
  have hupdate := hs.orderly.updateItem (i := { i with position := some n }) hactive
    (Menu.Service.contains_of_mem hi) ⟨i, hi, rfl⟩
  refine ⟨_, .menus hs (.updated hupdate), ?_⟩
  rw [Menu.Service.itemsAt_withItems_self, Menu.Item.mem_sort]
  have hperm := Menu.Service.replaceFirst_perm (i := { i with position := some n })
    (hs.orderly.distinct (Text.key i.menuCode)) ⟨i, hi, rfl⟩
  exact hperm.mem_iff.2 (List.mem_append_right _ (List.mem_singleton_self _))

theorem exists_positioned_panel {c : ContentType} (hc : c.status.exposesPanel = true)
    (hslug : c.panelSlug ≠ "") (hlabel : Text.blank c.label = false)
    (hbuilt : (listed.buildPanel .empty .empty c (environmentFor .empty c) c.panelSlug).isOk = true)
    (n : Int) : ∃ s a i, Attainable listed s ∧
      s.slugs = [⟨environmentFor .empty c, c.id, c.panelSlug⟩] ∧
      s.registry.attachments.get? (ownName .empty c) = some a ∧ i.id = a.itemId ∧
      i ∈ s.menus.itemsAt (Text.key a.menuCode) ∧ i.position = some n := by
  have hempty : Attainable listed ⟨.empty false, .empty, []⟩ := .start
  obtain ⟨p, hp⟩ : ∃ p, listed.Makes .empty .empty c none ⟨.empty false, .empty, []⟩ p :=
    exists_makes hslug rfl hbuilt fun p _ => takes_of_label _ p hlabel
  have hitem : placed (listed.menuItem .empty p c c.panelSlug none) [] ∈
      listed.entries (listed.made .empty c none p ⟨.empty false, .empty, []⟩) := by
    rw [entries, itemsAt_made rfl]
    exact mem_relink.2 (.inr rfl)
  obtain ⟨menus, hs, hpositioned⟩ := (hempty.made hc hp).exists_positioned hitem
    (by rw [placed_menuCode, menuItem_menuCode]) n
  refine ⟨_, ⟨listed.menuCode, (listed.menuItem .empty p c c.panelSlug none).id⟩, _, hs, rfl, ?_,
    ?_, hpositioned, rfl⟩
  · exact (attachment_registered rfl c p _ _ _).trans (if_pos hp.name.symm)
  · exact placed_id _ []

/-- The posts become articles, and keep the position that the host gave their menu item. -/
theorem posts_relocated : ∃ s t p new,
    Attainable listed s ∧ s.slug? "" "1" = some "posts" ∧
    listed.refresh .empty .empty (titled "1" "Articles" "articles" []) (⟨⟨0, 0⟩, 0⟩, s) =
      (.ok (some p), ⟨⟨0, 0⟩, 0⟩, t) ∧
    t.registry.Vacant "posts" ∧ t.registry.get? "articles" = some p ∧
    new ∈ listed.entries t ∧ new.target.key = "articles" ∧ new.position = some 5 := by
  let articles := titled "1" "Articles" "articles" []
  obtain ⟨s, a, i, hs, hslugs, ha, hid, hi, hn⟩ := exists_positioned_panel
    (c := titled "1" "Posts" "posts" []) rfl (by decide +kernel) (by decide)
    (by decide) 5
  have hposts : ownName .empty (titled "1" "Posts" "posts" []) =
      panelName "posts" (environmentFor .empty articles) := by decide
  have hslug : s.slug? (environmentFor .empty articles) articles.id = some "posts" := by
    rw [Site.slug?, hslugs]
    decide
  have hfree : s.isTaken (environmentFor .empty articles) articles.id articles.panelSlug =
      false := by
    rw [Site.isTaken, hslugs]
    decide
  have hne : "posts" ≠ articles.panelSlug := by decide
  obtain ⟨p, hp⟩ : ∃ p, listed.Makes .empty .empty articles
      (listed.position? s .empty (panelName "posts" (environmentFor .empty articles)))
      (vacated .empty articles "posts" s) p :=
    exists_makes (by decide) ((isTaken_withSlug_self s _ _ _ _).trans hfree)
      (by decide +kernel) fun p _ => takes_of_label _ p (by decide +kernel)
  obtain ⟨t, hrefresh⟩ : ∃ t, listed.refresh .empty .empty articles (⟨⟨0, 0⟩, 0⟩, s) =
      (.ok (some p), ⟨⟨0, 0⟩, 0⟩, t) :=
    ⟨_, (refresh_eq_ok_iff rfl hs.orderly rfl hslug hne).2 ⟨p, hp, rfl, rfl⟩⟩
  obtain ⟨_, new, ⟨⟩, hmoved⟩ := refresh_relocates rfl hs rfl hslug hne hrefresh
  have hvacant := hmoved.left
  have hpanel := hmoved.panel
  have hentry := hmoved.entry
  have hposition := hmoved.position a (hposts ▸ ha) i hi hid 5 hn
  have hposts : panelName "posts" (environmentFor .empty articles) = "posts" := by decide +kernel
  have harticles : ownName .empty articles = "articles" := by decide
  have hempty : environmentFor .empty articles = "" := by decide
  rw [hposts] at hvacant
  rw [harticles] at hpanel hentry
  rw [hempty] at hslug
  exact ⟨s, t, p, new, hs, hslug, hrefresh, hvacant, hpanel, hentry.1, hentry.2, hposition⟩

end Panel.Factory

end Backoffice

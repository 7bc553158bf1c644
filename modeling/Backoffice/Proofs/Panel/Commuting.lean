import Backoffice.Proofs.Panel.Creation

namespace Backoffice

/-- The same panels and menus, and the same slugs in whatever order they were reserved. -/
structure Site.Agrees (s t : Site) : Prop where
  registry : t.registry = s.registry
  menus : t.menus = s.menus
  slugs : t.slugs.Perm s.slugs
  slug? : ∀ environment typeId, t.slug? environment typeId = s.slug? environment typeId

theorem Site.withSlug_perm (s : Site) {typeId typeId' : String} (h : typeId ≠ typeId')
    (environment environment' : String) (x y : Option String) :
    ((s.withSlug environment typeId x).withSlug environment' typeId' y).slugs.Perm
      ((s.withSlug environment' typeId' y).withSlug environment typeId x).slugs := by
  have hkept : ∀ {e e' i i' : String} {z : Option String}, i ≠ i' →
      (z.toList.map fun slug => (⟨e, i, slug⟩ : Reservation)).filter (fun r => !r.isOf e' i') =
        z.toList.map fun slug => ⟨e, i, slug⟩ := by
    intro e e' i i' z hne
    refine List.filter_eq_self.2 fun r hr => ?_
    obtain ⟨_, -, rfl⟩ := List.mem_map.1 hr
    simp [Reservation.isOf, hne]
  simp only [withSlug, List.filter_append, List.filter_filter, hkept h, hkept h.symm,
    List.append_assoc, Bool.and_comm]
  exact List.Perm.append_left _ List.perm_append_comm

theorem Site.slug?_withSlug_comm (s : Site) {typeId typeId' : String} (h : typeId ≠ typeId')
    (environment environment' : String) (x y : Option String) (e i : String) :
    ((s.withSlug environment typeId x).withSlug environment' typeId' y).slug? e i =
      ((s.withSlug environment' typeId' y).withSlug environment typeId x).slug? e i := by
  simp only [slug?_withSlug]
  split
  · rename_i hi
    rw [if_neg fun hi' => h (hi'.2.symm.trans hi.2)]
  · rfl

theorem Site.Exclusive.mem_withSlug {s : Site} (hs : s.Exclusive) {environment typeId slug : String}
    (hown : ∀ old, s.slug? environment typeId = some old → old = slug) {r : Reservation}
    (hr : r ∈ s.slugs) : r ∈ (s.withSlug environment typeId (some slug)).slugs := by
  rw [Site.mem_withSlug]
  by_cases hof : r.environment = environment ∧ r.typeId = typeId
  · obtain ⟨rfl, rfl⟩ := hof
    exact .inr ⟨slug, rfl, by rw [← hown _ (hs.mem_slugs_iff.1 hr)]⟩
  · exact .inl ⟨hr, hof⟩

namespace Panel.Factory

open Menu (Item)

variable {f : Factory} {runtime runtime' : Workflow.Runtime} {ctx ctx' : Context}
  {supply supply' supply'' : Supply} {s t u : Site} {a b : ContentType} {p q : Panel}
  {position position' : Option Int} {i j : Item} {menus : Menu.Service}

theorem registered_comm (h : p.name ≠ q.name) (f : Factory) (a b : ContentType) (i j : String)
    (r : Registry) : f.registered b q j (f.registered a p i r) =
      f.registered a p i (f.registered b q j r) := by
  unfold registered
  split
  · simp only [Registry.put, Registry.adapt, Registry.attach, Dict.set_comm _ h]
  · simp only [Registry.put, Registry.adapt, Dict.set_comm _ h]

theorem relinked_comm (hs : menus.Orderly) (hcode : i.menuCode = j.menuCode)
    (h : Separate i j (menus.itemsAt (Text.key i.menuCode))) :
    relinked j (relinked i menus) = relinked i (relinked j menus) := by
  simp only [relinked, ← hcode, Menu.Service.itemsAt_withItems_self,
    Menu.Service.withItems_withItems, relink_comm h (hs.ordered _) (hs.distinct _)]

theorem linkedIn_comm (hs : menus.Orderly) (f : Factory) (hcode : i.menuCode = j.menuCode)
    (h : Separate i j (menus.itemsAt (Text.key i.menuCode))) :
    f.linkedIn j (f.linkedIn i menus) = f.linkedIn i (f.linkedIn j menus) := by
  unfold linkedIn
  split
  · exact relinked_comm hs hcode h
  · rfl

theorem takes_of_relinked (hcode : i.menuCode = j.menuCode) (hid : i.id ≠ j.id)
    (hi : Takes menus i) (hj : Takes (relinked i menus) j) : Takes menus j where
  menu := hcode ▸ hi.menu
  label := by
    refine hj.label.imp_right ?_
    rintro ⟨k, hk, hkid⟩
    rw [relinked, ← hcode, Menu.Service.itemsAt_withItems_self] at hk
    rcases mem_relink.1 hk with ⟨hk, -⟩ | rfl
    · exact ⟨k, hcode ▸ hk, hkid⟩
    · exact absurd hkid hid

theorem takes_relinked_other (hcode : i.menuCode = j.menuCode)
    (h : Separate i j (menus.itemsAt (Text.key i.menuCode))) (hi : Takes menus i) :
    Takes (relinked j menus) i where
  menu := .inl (by rw [hcode]; exact Menu.Service.contains_withItems_self _ _ _)
  label := by
    refine hi.label.imp_right ?_
    rintro ⟨k, hk, hkid⟩
    refine ⟨k, ?_, hkid⟩
    rw [relinked, ← hcode, Menu.Service.itemsAt_withItems_self, mem_relink]
    exact .inl ⟨hk, keeps_eq_true_iff.2 ⟨hkid ▸ h.id, h.left k hk hkid⟩⟩

theorem Makes.before (hs : s.Exclusive) (hp : f.Makes runtime ctx a position s p)
    (hq : f.Makes runtime' ctx' b position' (f.made ctx a position p s) q)
    (hown : ∀ old, s.slug? (environmentFor ctx a) a.id = some old → old = a.panelSlug)
    (hid : (f.menuItem ctx p a a.panelSlug position).id ≠
      (f.menuItem ctx' q b b.panelSlug position').id) :
    f.Makes runtime' ctx' b position' s q where
  active := hq.active
  slug := hq.slug
  free := by
    rw [Site.isTaken_eq_false_iff]
    intro r hr
    exact Site.isTaken_eq_false_iff.1 hq.free r (hs.mem_withSlug hown hr)
  schema := hq.schema
  built := hq.built
  takes hmenus := by
    have htakes := hq.takes hmenus
    rw [made, withPanel, linkedIn, if_pos hmenus] at htakes
    exact takes_of_relinked (by simp only [menuItem_menuCode]) hid (hp.takes hmenus) htakes

theorem Makes.after (hp : f.Makes runtime ctx a position s p)
    (hname : ownName ctx a ≠ ownName ctx' b)
    (hsep : Separate (f.menuItem ctx p a a.panelSlug position)
      (f.menuItem ctx' q b b.panelSlug position') (s.menus.itemsAt (Text.key f.menuCode))) :
    f.Makes runtime ctx a position (f.made ctx' b position' q s) p where
  active := hp.active
  slug := hp.slug
  free := by
    rw [Site.isTaken_eq_false_iff]
    intro r hr henvironment hslug
    rcases Site.mem_withSlug.1 hr with ⟨hr, -⟩ | ⟨new, hnew, rfl⟩
    · exact Site.isTaken_eq_false_iff.1 hp.free r hr henvironment hslug
    · refine absurd ?_ hname
      dsimp only at henvironment hslug
      rw [ownName, ownName, ← henvironment, ← hslug, Option.some.inj hnew]
  schema := hp.schema
  built := hp.built
  takes hmenus := by
    rw [made, withPanel, linkedIn, if_pos hmenus]
    exact takes_relinked_other (by simp only [menuItem_menuCode]) hsep (hp.takes hmenus)

theorem made_agrees (hs : s.menus.Orderly) (hid : a.id ≠ b.id) (hname : p.name ≠ q.name)
    (hsep : Separate (f.menuItem ctx p a a.panelSlug position)
      (f.menuItem ctx' q b b.panelSlug position') (s.menus.itemsAt (Text.key f.menuCode))) :
    Site.Agrees (f.made ctx' b position' q (f.made ctx a position p s))
      (f.made ctx a position p (f.made ctx' b position' q s)) where
  registry := (registered_comm hname f a b _ _ s.registry).symm
  menus := (linkedIn_comm hs f (by simp only [menuItem_menuCode]) hsep).symm
  slugs := Site.withSlug_perm s hid.symm _ _ _ _
  slug? _ _ := Site.slug?_withSlug_comm s hid.symm _ _ _ _ _ _

/-- Creations about different content types can be made in either order, unless the menu item of
one makes way for the other. -/
theorem creates_commute (hs : Attainable f s) (hid : a.id ≠ b.id)
    (ha : a.status.exposesPanel = true) (hb : b.status.exposesPanel = true)
    (howna : ∀ old, s.slug? (environmentFor ctx a) a.id = some old → old = a.panelSlug)
    (hname : ownName ctx a ≠ ownName ctx' b)
    (hitem : (f.menuItem ctx p a a.panelSlug none).id ≠ (f.menuItem ctx' q b b.panelSlug none).id)
    (hcrossed : ¬Crossed (f.menuItem ctx p a a.panelSlug none)
      (f.menuItem ctx' q b b.panelSlug none) (s.menus.itemsAt (Text.key f.menuCode)))
    (hfirst : f.create runtime ctx a (supply, s) = (.ok (some p), supply', t))
    (hsecond : f.create runtime' ctx' b (supply', t) = (.ok (some q), supply'', u)) :
    ∃ t' u', f.create runtime' ctx' b (supply, s) = (.ok (some q), supply', t') ∧
      f.create runtime ctx a (supply', t') = (.ok (some p), supply'', u') ∧ u.Agrees u' := by
  obtain ⟨_, hp, hpanel, hmade⟩ := (createAt_eq_ok_iff hs.orderly ha).1 hfirst
  obtain rfl := Option.some.inj hpanel
  obtain ⟨rfl, rfl⟩ := Prod.mk.inj hmade
  have horderly : (f.made ctx a none p s).menus.Orderly := orderly_linkedIn hs.orderly f _
  obtain ⟨_, hq, hpanel, hmade⟩ := (createAt_eq_ok_iff horderly hb).1 hsecond
  obtain rfl := Option.some.inj hpanel
  obtain ⟨rfl, rfl⟩ := Prod.mk.inj hmade
  have hnames : p.name ≠ q.name := by
    rw [hp.name, hq.name]
    exact hname
  have hsep := separate_of_not_crossed hitem (by simpa using hnames) hcrossed
  have hq' := hp.before hs.reachable.exclusive hq howna hitem
  have hp' := hp.after (b := b) hname hsep
  have horderly' : (f.made ctx' b none q s).menus.Orderly := orderly_linkedIn hs.orderly f _
  exact ⟨_, _, hq'.createAt_eq hs.orderly hb _, hp'.createAt_eq horderly' ha _,
    made_agrees hs.orderly hid hnames hsep⟩

theorem creates_commute_posts : ∃ p q t u t' u',
    let a := titled "1" "Pages" "pages" []
    let b := titled "2" "Posts" "posts" []
    let s : Site := ⟨.empty false, .empty, []⟩
    Attainable listed s ∧
      listed.create .empty .empty a (⟨⟨0, 0⟩, 0⟩, s) = (.ok (some p), ⟨⟨0, 0⟩, 0⟩, t) ∧
      listed.create .empty .empty b (⟨⟨0, 0⟩, 0⟩, t) = (.ok (some q), ⟨⟨0, 0⟩, 0⟩, u) ∧
      listed.create .empty .empty b (⟨⟨0, 0⟩, 0⟩, s) = (.ok (some q), ⟨⟨0, 0⟩, 0⟩, t') ∧
      listed.create .empty .empty a (⟨⟨0, 0⟩, 0⟩, t') = (.ok (some p), ⟨⟨0, 0⟩, 0⟩, u') ∧
      u.Agrees u' := by
  have hs : Attainable listed ⟨.empty false, .empty, []⟩ := .start
  obtain ⟨p, hp⟩ : ∃ p, listed.Makes .empty .empty (titled "1" "Pages" "pages" []) none
      ⟨.empty false, .empty, []⟩ p :=
    exists_makes (by decide) rfl (by decide +kernel)
      fun p _ => takes_of_label _ p (by decide)
  have hfree : ((⟨.empty false, .empty, []⟩ : Site).withSlug
      (environmentFor .empty (titled "1" "Pages" "pages" [])) "1"
      (some (titled "1" "Pages" "pages" []).panelSlug)).isTaken
        (environmentFor .empty (titled "2" "Posts" "posts" [])) "2"
        (titled "2" "Posts" "posts" []).panelSlug = false := by decide +kernel
  obtain ⟨q, hq⟩ : ∃ q, listed.Makes .empty .empty (titled "2" "Posts" "posts" []) none
      (listed.made .empty (titled "1" "Pages" "pages" []) none p ⟨.empty false, .empty, []⟩) q :=
    exists_makes (by decide) hfree (by decide +kernel)
      fun p _ => takes_of_label _ p (by decide +kernel)
  have hfirst := hp.createAt_eq hs.orderly rfl ⟨⟨0, 0⟩, 0⟩
  have hsecond := hq.createAt_eq (orderly_linkedIn hs.orderly listed _) rfl ⟨⟨0, 0⟩, 0⟩
  have hitem : (listed.menuItem .empty p (titled "1" "Pages" "pages" [])
      (titled "1" "Pages" "pages" []).panelSlug none).id ≠
      (listed.menuItem .empty q (titled "2" "Posts" "posts" [])
        (titled "2" "Posts" "posts" []).panelSlug none).id := by
    rw [hp.itemId, hq.itemId]
    decide +kernel
  obtain ⟨t', u', hother, hrest, hagrees⟩ := creates_commute hs (by decide) rfl rfl
    (fun _ h => by cases h) (by decide) hitem (fun ⟨_, h, _⟩ => by cases h) hfirst hsecond
  exact ⟨p, q, _, _, t', u', hs, hfirst, hsecond, hother, hrest, hagrees⟩

theorem Makes.not_after (hmenus : f.hasMenus = true) (hlabel : Text.blank a.label = true)
    (hid : f.itemId a a.panelSlug (ownName ctx a) ≠ (f.menuItem ctx' q b b.panelSlug position').id)
    (hstale : ∀ i ∈ s.menus.itemsAt (Text.key f.menuCode),
      i.id = f.itemId a a.panelSlug (ownName ctx a) →
        isStale (f.menuItem ctx' q b b.panelSlug position') i = true) :
    ¬f.Makes runtime ctx a position (f.made ctx' b position' q s) p := by
  intro hp
  rcases (hp.takes hmenus).label with h | ⟨i, hi, hia⟩
  · rw [menuItem_label, hlabel] at h
    cases h
  · rw [hp.itemId] at hia
    rw [menuItem_menuCode, itemsAt_made hmenus, mem_relink] at hi
    rcases hi with ⟨hi, hkeeps⟩ | rfl
    · have hfresh := (keeps_eq_true_iff.1 hkeeps).2
      rw [hstale i hi hia] at hfresh
      cases hfresh
    · exact hid hia.symm

def crossedBefore : ContentType :=
  titled "2" "\x1fpanel:/admin/w\x1fpanel:/admin/b:b:w" "b" []

def crossedFirst : ContentType :=
  titled "1" "" "" [("panel_slug", .str "w\x1fpanel:/admin/b:b")]

def crossedSecond : ContentType := titled "2" "" "b" []

theorem itemId_crossed : listed.itemId crossedBefore crossedBefore.panelSlug
      (ownName .empty crossedBefore) =
    listed.itemId crossedFirst crossedFirst.panelSlug (ownName .empty crossedFirst) :=
  Menu.canonicalKey_congr (by decide +kernel)

theorem itemId_crossed_ne : listed.itemId crossedBefore crossedBefore.panelSlug
      (ownName .empty crossedBefore) ≠
    listed.itemId crossedSecond crossedSecond.panelSlug (ownName .empty crossedSecond) := by
  decide +kernel

theorem exists_crossed : ∃ s o, Attainable listed s ∧ o.name = ownName .empty crossedBefore ∧
    s.slugs = [⟨"", "2", "b"⟩] ∧ s.menus.itemsAt (Text.key listed.menuCode) =
      [placed (listed.menuItem .empty o crossedBefore crossedBefore.panelSlug none) []] := by
  have hvacant : Attainable listed ⟨.empty false, .empty, []⟩ := .start
  obtain ⟨o, ho⟩ : ∃ o, listed.Makes .empty .empty crossedBefore none
      ⟨.empty false, .empty, []⟩ o :=
    exists_makes (by decide +kernel) rfl (by decide)
      fun p _ => takes_of_label _ p (by decide +kernel)
  have hslugs : ((⟨.empty false, .empty, []⟩ : Site).withSlug (environmentFor .empty crossedBefore)
      crossedBefore.id (some crossedBefore.panelSlug)).slugs = [⟨"", "2", "b"⟩] := by decide
  exact ⟨_, o, hvacant.made rfl ho, ho.name, hslugs,
    (itemsAt_made (f := listed) rfl _).trans (relink_nil _)⟩

theorem isStale_crossed {o q : Panel} (ho : o.name = ownName .empty crossedBefore)
    (hq : q.name = ownName .empty crossedSecond) :
    isStale (listed.menuItem .empty q crossedSecond crossedSecond.panelSlug none)
      (placed (listed.menuItem .empty o crossedBefore crossedBefore.panelSlug none) []) = true := by
  have hid := bne_iff_ne.2 itemId_crossed_ne
  rw [isStale, placed_id, placed_target, placed_parentId, menuItem_id, menuItem_id, menuItem_target,
    menuItem_target, menuItem_parentId, menuItem_parentId, ho, hq, hid, itemId_not_protected]
  decide

/-- The menu item from before makes way for that of the second content type, and it has the id of
that of the first, which has no label: it can take the place of an item, but it cannot be added. -/
theorem create_refused_after : ∃ s p q t u t',
    Attainable listed s ∧
      (∀ old, s.slug? (environmentFor .empty crossedFirst) crossedFirst.id = some old →
        old = crossedFirst.panelSlug) ∧
      (∀ old, s.slug? (environmentFor .empty crossedSecond) crossedSecond.id = some old →
        old = crossedSecond.panelSlug) ∧
      ownName .empty crossedFirst ≠ ownName .empty crossedSecond ∧
      (listed.menuItem .empty p crossedFirst crossedFirst.panelSlug none).id ≠
        (listed.menuItem .empty q crossedSecond crossedSecond.panelSlug none).id ∧
      listed.create .empty .empty crossedFirst (⟨⟨0, 0⟩, 0⟩, s) =
        (.ok (some p), ⟨⟨0, 0⟩, 0⟩, t) ∧
      listed.create .empty .empty crossedSecond (⟨⟨0, 0⟩, 0⟩, t) =
        (.ok (some q), ⟨⟨0, 0⟩, 0⟩, u) ∧
      listed.create .empty .empty crossedSecond (⟨⟨0, 0⟩, 0⟩, s) =
        (.ok (some q), ⟨⟨0, 0⟩, 0⟩, t') ∧
      ∀ x r, listed.create .empty .empty crossedFirst (⟨⟨0, 0⟩, 0⟩, t') ≠ (.ok x, r) := by
  obtain ⟨s, o, hs, ho, hslugs, hitems⟩ := exists_crossed
  have hfirst : s.slug? (environmentFor .empty crossedFirst) crossedFirst.id = none := by
    rw [Site.slug?, hslugs]
    decide +kernel
  have hsecond : s.slug? (environmentFor .empty crossedSecond) crossedSecond.id =
      some crossedSecond.panelSlug := by
    rw [Site.slug?, hslugs]
    decide +kernel
  obtain ⟨p, hp⟩ : ∃ p, listed.Makes .empty .empty crossedFirst none s p := by
    refine exists_makes (by decide +kernel) ?_ rfl fun p hname => ⟨.inr ?_, .inr ?_⟩
    · rw [Site.isTaken, hslugs]
      decide +kernel
    · have hcode : Text.key "admin" ≠ "" := by decide +kernel
      exact hcode
    · refine ⟨_, hitems ▸ List.mem_singleton_self _, ?_⟩
      rw [placed_id, menuItem_id, menuItem_id, ho, hname, itemId_crossed]
  obtain ⟨q, hq⟩ : ∃ q, listed.Makes .empty .empty crossedSecond none
      (listed.made .empty crossedFirst none p s) q := by
    refine exists_makes (by decide +kernel) ?_ (by decide +kernel)
      fun p _ => takes_of_label _ p (by decide +kernel)
    rw [Site.isTaken, slugs_made, Site.withSlug]
    dsimp only
    rw [hslugs]
    decide +kernel
  have hids : listed.itemId crossedFirst crossedFirst.panelSlug (ownName .empty crossedFirst) ≠
      (listed.menuItem .empty q crossedSecond crossedSecond.panelSlug none).id := by
    rw [hq.itemId, ← itemId_crossed]
    exact itemId_crossed_ne
  have hitem : (listed.menuItem .empty p crossedFirst crossedFirst.panelSlug none).id ≠
      (listed.menuItem .empty q crossedSecond crossedSecond.panelSlug none).id := by
    rw [hp.itemId]
    exact hids
  have hq' := hp.before hs.reachable.exclusive hq (fun _ h => by cases hfirst.symm.trans h) hitem
  have hrefused : ∀ p', ¬listed.Makes .empty .empty crossedFirst none
      (listed.made .empty crossedSecond none q s) p' := by
    refine fun p' => Makes.not_after rfl (by decide +kernel) hids fun i hi _ => ?_
    rw [hitems] at hi
    rw [List.mem_singleton.1 hi]
    exact isStale_crossed ho hq.name
  refine ⟨s, p, q, listed.made .empty crossedFirst none p s,
    listed.made .empty crossedSecond none q (listed.made .empty crossedFirst none p s),
    listed.made .empty crossedSecond none q s, hs, (fun _ h => by cases hfirst.symm.trans h),
    (fun _ h => (Option.some.inj (hsecond.symm.trans h)).symm), by decide +kernel, hitem, ?_, ?_, ?_,
    fun x r h => ?_⟩
  · exact hp.createAt_eq hs.orderly rfl _
  · exact hq.createAt_eq (orderly_linkedIn hs.orderly listed _) rfl _
  · exact hq'.createAt_eq hs.orderly rfl _
  · obtain ⟨p', hp', -⟩ := (createAt_eq_ok_iff (orderly_linkedIn hs.orderly listed _) rfl).1 h
    exact hrefused p' hp'

end Panel.Factory

end Backoffice

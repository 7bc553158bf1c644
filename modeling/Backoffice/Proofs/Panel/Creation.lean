import Backoffice.Proofs.Panel.Attainable

namespace Backoffice

attribute [ext] Site

namespace Call

variable {σ α β : Type}

theorem ofExcept_bind_eq_ok {x : Except Fault α} {g : α → Call σ β} {s t : Supply × σ} {b : β} :
    (ofExcept x >>= g) s = (.ok b, t) ↔ ∃ a, x = .ok a ∧ g a s = (.ok b, t) := by
  rw [bind_apply, ofExcept_apply]
  cases x with
  | ok a => simp
  | error e =>
    constructor
    · rintro ⟨⟩
    · rintro ⟨_, ⟨⟩, -⟩

theorem checked_eq_ok {b : Bool} {x : Except Fault Unit} {c : Call σ α} {s t : Supply × σ} {a : α} :
    (if b then ofExcept x >>= fun _ => c else c) s = (.ok a, t) ↔
      (b = true → x = .ok ()) ∧ c s = (.ok a, t) := by
  cases b with
  | false => simp
  | true =>
    refine ofExcept_bind_eq_ok.trans ⟨?_, fun ⟨hx, h⟩ => ⟨(), hx rfl, h⟩⟩
    rintro ⟨_, hx, h⟩
    exact ⟨fun _ => hx, h⟩

end Call

theorem Site.mem_withSlug {s : Site} {environment typeId : String} {slug : Option String}
    {r : Reservation} : r ∈ (s.withSlug environment typeId slug).slugs ↔
      (r ∈ s.slugs ∧ ¬(r.environment = environment ∧ r.typeId = typeId)) ∨
        ∃ new ∈ slug, r = ⟨environment, typeId, new⟩ := by
  rw [withSlug, List.mem_append, List.mem_filter, ← Reservation.isOf_iff, Bool.not_eq_true',
    Bool.not_eq_true, List.mem_map]
  simp only [Option.mem_toList, Option.mem_def, @eq_comm _ r]

theorem Site.reserve_apply (environment typeId slug : String) (supply : Supply) (s : Site) :
    reserve environment typeId slug (supply, s) =
      if s.isTaken environment typeId slug then
        (.error (.conflict ("panel slug already registered: " ++ slug)), supply, s)
      else (.ok (s.slug? environment typeId), supply,
        s.withSlug environment typeId (some slug)) := by
  rw [reserve, Call.atomic_apply]
  split <;> split <;> simp_all

theorem Site.onRegistry_bind {α : Type} (g : Panel.Registry → Panel.Registry)
    (k : Unit → Call Site α) (supply : Supply) (s : Site) :
    (Site.onRegistry g >>= k) (supply, s) = k () (supply, { s with registry := g s.registry }) := rfl

namespace Panel.Factory

open Menu (Item)

variable {f : Factory} {runtime : Workflow.Runtime} {ctx : Context} {supply : Supply} {s t : Site}
  {c : ContentType} {p : Panel} {position : Option Int} {environment slug : String}

def registered (f : Factory) (c : ContentType) (p : Panel) (itemId : String) (r : Registry) :
    Registry :=
  if f.hasMenus then
    ((r.put p).adapt p.name ⟨p, titleField c p⟩).attach p.name ⟨f.menuCode, itemId⟩
  else (r.put p).adapt p.name ⟨p, titleField c p⟩

def linkedIn (f : Factory) (item : Item) (menus : Menu.Service) : Menu.Service :=
  if f.hasMenus then relinked item menus else menus

def withPanel (f : Factory) (c : ContentType) (p : Panel) (item : Item) (s : Site) : Site :=
  { s with
    registry := f.registered c p item.id s.registry
    menus := f.linkedIn item s.menus }

theorem link_eq_ok_iff (supply : Supply) (hs : s.menus.Orderly) (hactive : ctx.cancelled = false)
    {r : Supply × Site} :
    f.link runtime ctx c environment slug position (supply, s) = (.ok p, r) ↔
      (f.validates = true → c.checkSchema = .ok ()) ∧
        f.buildPanel runtime ctx c environment slug = .ok p ∧
        (f.hasMenus = true → Takes s.menus (f.menuItem ctx p c slug position)) ∧
        r = (supply, f.withPanel c p (f.menuItem ctx p c slug position) s) := by
  have hlink (q : Panel) (registry : Registry) {id : String} {r : Supply × Site} :
      f.linkMenu ctx q c slug position (supply, { s with registry }) = (.ok id, r) ↔
        Takes s.menus (f.menuItem ctx q c slug position) ∧
          id = (f.menuItem ctx q c slug position).id ∧
          r = (supply, { s with
            registry, menus := relinked (f.menuItem ctx q c slug position) s.menus }) :=
    linkMenu_eq_ok_iff (s := { s with registry }) hs hactive
  refine Call.checked_eq_ok.trans (and_congr_right fun _ => Call.ofExcept_bind_eq_ok.trans ?_)
  unfold withPanel registered linkedIn
  cases f.hasMenus with
  | false =>
    constructor
    · rintro ⟨q, hbuilt, ⟨⟩⟩
      exact ⟨hbuilt, by simp, rfl⟩
    · rintro ⟨hbuilt, -, rfl⟩
      exact ⟨p, hbuilt, rfl⟩
  | true =>
    constructor
    · rintro ⟨q, hbuilt, h⟩
      rw [Site.onRegistry_bind, Site.onRegistry_bind] at h
      obtain ⟨itemId, s', hlinked, h⟩ := Call.bind_apply_eq_ok.1 h
      obtain ⟨htakes, rfl, rfl⟩ := (hlink q _).1 hlinked
      cases h
      exact ⟨hbuilt, fun _ => htakes, rfl⟩
    · rintro ⟨hbuilt, htakes, rfl⟩
      refine ⟨p, hbuilt, ?_⟩
      rw [Site.onRegistry_bind, Site.onRegistry_bind]
      have hlinked := (hlink p ((s.registry.put p).adapt p.name ⟨p, titleField c p⟩)).2
        ⟨htakes rfl, rfl, rfl⟩
      exact (Call.bind_apply_ok hlinked _).trans rfl

structure Makes (f : Factory) (runtime : Workflow.Runtime) (ctx : Context) (c : ContentType)
    (position : Option Int) (s : Site) (p : Panel) : Prop where
  active : ctx.cancelled = false
  slug : c.panelSlug ≠ ""
  free : s.isTaken (environmentFor ctx c) c.id c.panelSlug = false
  schema : f.validates = true → c.checkSchema = .ok ()
  built : f.buildPanel runtime ctx c (environmentFor ctx c) c.panelSlug = .ok p
  takes : f.hasMenus = true → Takes s.menus (f.menuItem ctx p c c.panelSlug position)

def made (f : Factory) (ctx : Context) (c : ContentType) (position : Option Int) (p : Panel)
    (s : Site) : Site :=
  f.withPanel c p (f.menuItem ctx p c c.panelSlug position)
    (s.withSlug (environmentFor ctx c) c.id (some c.panelSlug))

theorem createAt_apply (hc : c.status.exposesPanel = true) (supply : Supply) (s : Site) :
    f.createAt runtime ctx c position (supply, s) =
      if ctx.cancelled = true then (.error .cancelled, supply, s)
      else if c.panelSlug = "" then
        (.error (.invalid "slug" "content type slug is required"), supply, s)
      else if s.isTaken (environmentFor ctx c) c.id c.panelSlug then
        (.error (.conflict ("panel slug already registered: " ++ c.panelSlug)), supply, s)
      else match f.link runtime ctx c (environmentFor ctx c) c.panelSlug position
          (supply, s.withSlug (environmentFor ctx c) c.id (some c.panelSlug)) with
        | (.ok p, r) => (.ok (some p), r)
        | (.error e, supply', s') => (.error e, supply',
            s'.withSlug (environmentFor ctx c) c.id (s.slug? (environmentFor ctx c) c.id)) := by
  have hreserve := Site.reserve_apply (environmentFor ctx c) c.id c.panelSlug supply s
  unfold createAt Context.ensureActive
  cases ctx.cancelled with
  | true => rfl
  | false =>
    have hactive : Call.ofExcept (if false = true then .error .cancelled else .ok ())
        (supply, s) = (.ok (), supply, s) := rfl
    rw [Call.bind_apply_ok hactive, if_neg Bool.false_ne_true]
    dsimp only
    rw [if_pos hc]
    by_cases hslug : c.panelSlug = ""
    · rw [if_pos hslug, if_pos (beq_iff_eq.2 hslug)]
      rfl
    · rw [if_neg hslug, if_neg (mt beq_iff_eq.1 hslug)]
      cases htaken : s.isTaken (environmentFor ctx c) c.id c.panelSlug with
      | true =>
        rw [htaken, if_pos rfl] at hreserve
        exact Call.bind_apply_error hreserve _
      | false =>
        rw [htaken, if_neg Bool.false_ne_true] at hreserve
        rw [Call.bind_apply_ok hreserve, Call.bind_apply, Call.attempt, if_neg Bool.false_ne_true]
        rcases f.link runtime ctx c (environmentFor ctx c) c.panelSlug position
          (supply, s.withSlug (environmentFor ctx c) c.id (some c.panelSlug)) with ⟨e | p, r⟩
        · rfl
        · rfl

theorem createAt_eq_ok_iff (hs : s.menus.Orderly) (hc : c.status.exposesPanel = true)
    {a : Option Panel} {r : Supply × Site} :
    f.createAt runtime ctx c position (supply, s) = (.ok a, r) ↔
      ∃ p, f.Makes runtime ctx c position s p ∧ a = some p ∧
        r = (supply, f.made ctx c position p s) := by
  have horderly : (s.withSlug (environmentFor ctx c) c.id (some c.panelSlug)).menus.Orderly := hs
  rw [createAt_apply hc]
  constructor
  · intro h
    split at h
    · cases h
    rename_i hactive
    split at h
    · cases h
    rename_i hslug
    split at h
    · cases h
    rename_i hfree
    have hactive := Bool.eq_false_iff.2 hactive
    split at h
    · rename_i p r' hlink
      cases h
      obtain ⟨hschema, hbuilt, htakes, rfl⟩ := (link_eq_ok_iff supply horderly hactive).1 hlink
      exact ⟨p, ⟨hactive, hslug, Bool.eq_false_iff.2 hfree, hschema, hbuilt, htakes⟩, rfl, rfl⟩
    · cases h
  · rintro ⟨p, hp, rfl, rfl⟩
    have hlink := (link_eq_ok_iff supply horderly hp.active).2
      ⟨hp.schema, hp.built, hp.takes, rfl⟩
    rw [hp.active, if_neg Bool.false_ne_true, if_neg hp.slug, hp.free, if_neg Bool.false_ne_true,
      hlink]
    rfl

theorem Makes.createAt_eq (h : f.Makes runtime ctx c position s p) (hs : s.menus.Orderly)
    (hc : c.status.exposesPanel = true) (supply : Supply) :
    f.createAt runtime ctx c position (supply, s) =
      (.ok (some p), supply, f.made ctx c position p s) :=
  (createAt_eq_ok_iff hs hc).2 ⟨p, h, rfl, rfl⟩

theorem slugs_made (f : Factory) (ctx : Context) (c : ContentType) (position : Option Int)
    (p : Panel) (s : Site) : (f.made ctx c position p s).slugs =
      (s.withSlug (environmentFor ctx c) c.id (some c.panelSlug)).slugs := rfl

theorem itemsAt_made (hmenus : f.hasMenus = true) (s : Site) :
    (f.made ctx c position p s).menus.itemsAt (Text.key f.menuCode) =
      relink (f.menuItem ctx p c c.panelSlug position) (s.menus.itemsAt (Text.key f.menuCode)) := by
  rw [made, withPanel, linkedIn, if_pos hmenus, relinked, menuItem_menuCode,
    Menu.Service.itemsAt_withItems_self]
  rfl

theorem itemsAt_made_ne {code : String} (h : code ≠ Text.key f.menuCode) (s : Site) :
    (f.made ctx c position p s).menus.itemsAt code = s.menus.itemsAt code := by
  rw [made, withPanel, linkedIn]
  dsimp only
  split
  · rw [relinked, menuItem_menuCode, Menu.Service.itemsAt_withItems, if_neg h]
    rfl
  · rfl

theorem registered_registered (f : Factory) (c : ContentType) (p : Panel) (itemId : String)
    (r : Registry) : f.registered c p itemId (f.registered c p itemId r) =
      f.registered c p itemId r := by
  unfold registered
  split <;> simp [Registry.put, Registry.adapt, Registry.attach]

theorem isTaken_withSlug_self (s : Site) (environment typeId : String) (x : Option String)
    (slug : String) : (s.withSlug environment typeId x).isTaken environment typeId slug =
      s.isTaken environment typeId slug := by
  rw [Bool.eq_iff_iff, ← Bool.not_eq_false, ← Bool.not_eq_false (s.isTaken _ _ _), not_iff_not,
    Site.isTaken_eq_false_iff, Site.isTaken_eq_false_iff]
  constructor
  · intro h r hr henvironment hslug
    by_cases htype : r.typeId = typeId
    · exact htype
    · exact h r (Site.mem_withSlug.2 (.inl ⟨hr, fun hof => htype hof.2⟩)) henvironment hslug
  · intro h r hr henvironment hslug
    rcases Site.mem_withSlug.1 hr with ⟨hr, -⟩ | ⟨_, -, rfl⟩
    · exact h r hr henvironment hslug
    · rfl

theorem orderly_linkedIn {menus : Menu.Service} (hs : menus.Orderly) (f : Factory) (item : Item) :
    (f.linkedIn item menus).Orderly := by
  unfold linkedIn
  split
  · exact orderly_relinked hs item
  · exact hs

theorem linkedIn_linkedIn {menus : Menu.Service} (hs : menus.Orderly) (f : Factory) (item : Item) :
    f.linkedIn item (f.linkedIn item menus) = f.linkedIn item menus := by
  unfold linkedIn
  split
  · exact relinked_relinked hs item
  · rfl

theorem made_made (hs : s.menus.Orderly) (f : Factory) (ctx : Context) (c : ContentType)
    (position : Option Int) (p : Panel) :
    f.made ctx c position p (f.made ctx c position p s) = f.made ctx c position p s := by
  apply Site.ext
  case registry => exact registered_registered f c p _ s.registry
  case menus => exact linkedIn_linkedIn hs f _
  case slugs =>
    have hslugs := congrArg Site.slugs (Site.withSlug_withSlug s (environmentFor ctx c) c.id
      (some c.panelSlug) (some c.panelSlug))
    exact hslugs

theorem Makes.again (h : f.Makes runtime ctx c position s p) :
    f.Makes runtime ctx c position (f.made ctx c position p s) p where
  active := h.active
  slug := h.slug
  free := (isTaken_withSlug_self s _ _ _ _).trans h.free
  schema := h.schema
  built := h.built
  takes hmenus := by
    rw [made, withPanel, linkedIn, if_pos hmenus]
    exact takes_relinked s.menus _

/-- A creation that succeeded can be repeated, and changes nothing then. -/
theorem create_idempotent (hs : Attainable f s) (hc : c.status.exposesPanel = true)
    {a : Option Panel} {supply' : Supply}
    (h : f.create runtime ctx c (supply, s) = (.ok a, supply', t)) (later : Supply) :
    f.create runtime ctx c (later, t) = (.ok a, later, t) := by
  obtain ⟨p, hp, rfl, hmade⟩ := (createAt_eq_ok_iff hs.orderly hc).1 h
  obtain ⟨rfl, rfl⟩ := Prod.mk.inj hmade
  have horderly := orderly_linkedIn hs.orderly f (f.menuItem ctx p c c.panelSlug none)
  have hagain := hp.again.createAt_eq horderly hc later
  rwa [made_made hs.orderly] at hagain

theorem Makes.name (h : f.Makes runtime ctx c position s p) : p.name = ownName ctx c :=
  (buildPanel_name h.built).trans (key_ownName ctx c)

theorem Makes.call_create (h : f.Makes runtime ctx c none s p) (hs : s.menus.Orderly)
    (hc : c.status.exposesPanel = true) (supply : Supply) :
    (Request.create c).call f runtime ctx (supply, s) =
      (.ok (), supply, f.made ctx c none p s) := by
  rw [Request.call, Factory.create, Call.bind_apply_ok (h.createAt_eq hs hc supply)]
  rfl

theorem Attainable.made (hs : Attainable f s) (hc : c.status.exposesPanel = true)
    (h : f.Makes runtime ctx c none s p) : Attainable f (f.made ctx c none p s) := by
  have hafter : Attainable f ((Request.create c).call f runtime ctx (⟨⟨0, 0⟩, 0⟩, s)).2.2 :=
    .call hs
  rwa [h.call_create hs.orderly hc] at hafter

theorem Makes.itemId (h : f.Makes runtime ctx c position s p) (position' : Option Int) :
    (f.menuItem ctx p c c.panelSlug position').id = f.itemId c c.panelSlug (ownName ctx c) := by
  rw [menuItem_id, h.name]

def listed : Factory := { bare with hasMenus := true }

def titled (id name slug : String) (capabilities : Record) : ContentType :=
  ⟨id, name, slug, "", .active, .obj [], .null, capabilities, "", ⟨0, 0⟩, ⟨0, 0⟩⟩

theorem takes_of_label (menus : Menu.Service) (p : Panel) (h : Text.blank c.label = false) :
    Takes menus (listed.menuItem .empty p c c.panelSlug position) := by
  refine ⟨.inr ?_, .inl ?_⟩
  · have hcode : Text.key "admin" ≠ "" := by decide
    rw [menuItem_menuCode]
    exact hcode
  · rw [menuItem_label]
    exact h

theorem exists_makes {c : ContentType} {s : Site} (hslug : c.panelSlug ≠ "")
    (hfree : s.isTaken (environmentFor .empty c) c.id c.panelSlug = false)
    (hbuilt : (listed.buildPanel .empty .empty c (environmentFor .empty c) c.panelSlug).isOk = true)
    (htakes : ∀ p, p.name = ownName .empty c →
      Takes s.menus (listed.menuItem .empty p c c.panelSlug position)) :
    ∃ p, listed.Makes .empty .empty c position s p := by
  cases hpanel : listed.buildPanel .empty .empty c (environmentFor .empty c) c.panelSlug with
  | ok p =>
    have hname := (buildPanel_name hpanel).trans (key_ownName .empty c)
    exact ⟨p, rfl, hslug, hfree, (fun h => by cases h), hpanel, fun _ => htakes p hname⟩
  | error e =>
    rw [hpanel] at hbuilt
    cases hbuilt

theorem create_idempotent_pages : ∃ p t, Attainable listed ⟨.empty false, .empty, []⟩ ∧
    listed.create .empty .empty (pages .active "") (⟨⟨0, 0⟩, 0⟩, ⟨.empty false, .empty, []⟩) =
      (.ok (some p), ⟨⟨0, 0⟩, 0⟩, t) ∧
    listed.create .empty .empty (pages .active "") (⟨⟨7, 0⟩, 0⟩, t) =
      (.ok (some p), ⟨⟨7, 0⟩, 0⟩, t) ∧
    t.registry.names = ["pages"] ∧ (t.menus.itemsAt "admin").map (·.target.key) = ["pages"] := by
  have hs : Attainable listed ⟨.empty false, .empty, []⟩ := .start
  obtain ⟨p, hp⟩ : ∃ p, listed.Makes .empty .empty (pages .active "") none
      ⟨.empty false, .empty, []⟩ p :=
    exists_makes (by decide) rfl rfl
      fun p _ => takes_of_label _ p (by decide)
  have hname : p.name = "pages" := hp.name.trans (by decide)
  have hcode : Text.key "admin" = "admin" := rfl
  have hcreate := hp.createAt_eq hs.orderly rfl ⟨⟨0, 0⟩, 0⟩
  refine ⟨p, _, hs, hcreate, create_idempotent hs rfl hcreate _, ?_, ?_⟩
  · have hnames : (listed.made .empty (pages .active "") none p
        ⟨.empty false, .empty, []⟩).registry.names = [p.name] := rfl
    rw [hnames, hname]
  · rw [← hcode]
    refine (congrArg (·.map (·.target.key)) (itemsAt_made (f := listed) rfl _)).trans ?_
    refine (congrArg (·.map (·.target.key)) (relink_nil _)).trans ?_
    exact congrArg (fun n => [n]) hname

end Panel.Factory

end Backoffice

import Backoffice.Office.Basic
import Backoffice.Proofs.Content.Catalog
import Backoffice.Proofs.Panel.Isolation

namespace Backoffice

open Call (Ensures Gives ensures_pure)
open Panel.Factory (environmentFor ownName panelName panelName_injective)

namespace ContentType.Catalog

/-- A content type that is stored and to have a panel. -/
def Exposes (cat : Catalog) (id : String) (c : ContentType) : Prop :=
  cat.types.get? id = some c ∧ c.status.exposesPanel = true

def Distinct (ctx : Context) (cat : Catalog) : Prop :=
  ∀ id c id' d, cat.Exposes id c → cat.types.get? id' = some d → id ≠ id' →
    (d.status.exposesPanel = false ∨ environmentFor ctx d ≠ environmentFor ctx c) →
      ownName ctx d ≠ ownName ctx c

end ContentType.Catalog

namespace Panel.Factory

open Site (Ends)

variable {f : Factory} {runtime : Workflow.Runtime} {ctx : Context} {s t u : Site} {c : ContentType}

structure Settled (ctx : Context) (c : ContentType) (present : Bool) (s t : Site) : Prop where
  slugs : t.slugs = (s.withSlug (environmentFor ctx c) c.id
    (if present then some c.panelSlug else none)).slugs
  own : present = true → t.registry.contains (ownName ctx c) = true
  grown : ∀ name, t.registry.contains name = true →
    (present = true ∧ name = ownName ctx c) ∨ s.registry.contains name = true
  kept : ∀ name, s.registry.contains name = true → name ≠ ownName ctx c →
    (∀ old, s.slug? (environmentFor ctx c) c.id = some old →
      name ≠ panelName old (environmentFor ctx c)) → t.registry.contains name = true
  left : ∀ old, s.slug? (environmentFor ctx c) c.id = some old →
    t.registry.contains (panelName old (environmentFor ctx c)) = true →
      present = true ∧ panelName old (environmentFor ctx c) = ownName ctx c

theorem Exposed.settled (h : Exposed ctx c s t)
    (hs : ∀ old, s.slug? (environmentFor ctx c) c.id = some old → old = c.panelSlug) :
    Settled ctx c true s t where
  slugs := h.slugs
  own _ := (h.names _).2 (.inl rfl)
  grown name hname := ((h.names name).1 hname).imp_left fun heq => ⟨rfl, heq⟩
  kept name hname _ _ := (h.names name).2 (.inr hname)
  left old hold _ := ⟨rfl, by rw [hs old hold, ownName]⟩

theorem Cleaned.settled (h : Cleaned ctx c s t) (hs : s.Exclusive) : Settled ctx c false s t where
  slugs := h.slugs
  own hpresent := by cases hpresent
  grown name hname := .inr ((h.names name).1 hname).1
  kept name hname hown hold := by
    refine (h.names name).2 ⟨hname, fun _ => ?_⟩
    unfold goneName
    cases hslug : s.slug? (environmentFor ctx c) c.id with
    | none => exact hown
    | some old => exact hold old hslug
  left old hold hname := by
    have hgone : goneName s ctx c = panelName old (environmentFor ctx c) := by
      rw [goneName, hold, Option.getD_some]
    have hne := ((h.names _).1 hname).2
    rw [hold, Option.getD_some, hgone] at hne
    exact absurd rfl (hne (hs.named _ (Site.mem_of_slug? hold)))

theorem Left.slug?_eq {old new : String} {exposes : Bool} (h : Left ctx c old exposes s t)
    (hnew : t.slug? (environmentFor ctx c) c.id = some new) : new = c.panelSlug := by
  rw [h.slug?, Option.ite_none_right_eq_some] at hnew
  exact (Option.some.inj hnew.2).symm

theorem Left.settled {old : String} {exposes present : Bool} (h : Left ctx c old exposes s t)
    (hold : s.slug? (environmentFor ctx c) c.id = some old) (htu : Settled ctx c present t u) :
    Settled ctx c present s u where
  slugs := by
    rw [htu.slugs, Site.withSlug_congr h.slugs, Site.withSlug_withSlug]
  own := htu.own
  grown name hname := (htu.grown name hname).imp_right fun hname => ((h.contains name).1 hname).1
  kept name hname hown hne := by
    refine htu.kept name ((h.contains name).2 ⟨hname, hne old hold⟩) hown fun new hnew => ?_
    have hsame : new = c.panelSlug := h.slug?_eq hnew
    rwa [hsame]
  left other hother hname := by
    obtain rfl : old = other := Option.some.inj (hold.symm.trans hother)
    refine (htu.grown _ hname).resolve_right fun hname => ?_
    exact ((h.contains _).1 hname).2 rfl

theorem ensures_createAt_settled {names : String → Prop} {items : String → Menu.Item → Prop}
    (runtime : Workflow.Runtime) (hs : f.Admits ctx c names items s)
    (hown : names (ownName ctx c)) (hgone : names (goneName s ctx c)) (position : Option Int) :
    (f.createAt runtime ctx c position).Ensures s (Ends (scope ctx c names items) s fun t =>
      s.Exclusive → (∀ old, s.slug? (environmentFor ctx c) c.id = some old → old = c.panelSlug) →
        Settled ctx c c.status.exposesPanel s t) := by
  cases hc : c.status.exposesPanel with
  | true =>
    exact (ensures_createAt_exposed hc hs hown runtime position).imp
      fun _ _ h => ⟨h.confined, fun a ha _ hold => (h.done a ha).settled hold⟩
  | false =>
    exact (ensures_createAt_hidden hc hs hgone runtime position).imp
      fun _ _ h => ⟨h.confined, fun a ha hexclusive _ => (h.done a ha).settled hexclusive⟩

theorem gives_follow (f : Factory) (runtime : Workflow.Runtime) (ctx : Context)
    (e : ContentType.Event) (hs : s.Exclusive)
    (hnew : ∀ c, e = .created c → s.slug? (environmentFor ctx c) c.id = none) :
    (f.follow runtime ctx e).Gives s fun _ t =>
      t.Exclusive ∧ Settled ctx (Request.after e).subject (Request.after e).exposes s t := by
  have hany : ∀ c t, f.Admits ctx c (fun _ => True) (fun _ _ => True) t :=
    fun _ _ => ⟨fun _ _ _ _ _ => trivial, fun _ _ _ => trivial⟩
  cases e with
  | created c =>
    have hcreate := ensures_createAt_settled runtime (hany c s) trivial trivial none
    refine hcreate.bind (fun a t h => ensures_pure fun _ _ => ?_) fun _ _ _ _ h => by cases h
    refine ⟨h.confined.exclusive hs, h.done a rfl hs fun old hold => ?_⟩
    cases (hnew c rfl).symm.trans hold
  | updated c =>
    have hrefresh := ensures_refresh runtime (hany c s) trivial (fun _ _ => trivial)
      fun t position ht hgone => ensures_createAt_settled runtime ht trivial hgone position
    refine hrefresh.bind (fun a t h => ensures_pure fun _ _ => ?_) fun _ _ _ _ h => by cases h
    refine ⟨h.confined.exclusive hs, ?_⟩
    cases h.done a rfl with
    | stayed hold hdone => exact hdone hs hold
    | moved hold _ hleft hdone =>
      exact hleft.settled hold (hdone (hleft.exclusive hs) fun _ hnew => hleft.slug?_eq hnew)
  | deleted c =>
    refine (ensures_remove (hany c s) trivial).imp fun _ _ h a ha => ?_
    exact ⟨h.confined.exclusive hs, (h.done a ha).settled hs⟩

theorem ownName_ne {d : ContentType} {id id' : String} (hs : s.Exclusive)
    (hc : s.slug? (environmentFor ctx c) id = some c.panelSlug)
    (hd : s.slug? (environmentFor ctx d) id' = some d.panelSlug) (hne : id ≠ id')
    (henvironment : environmentFor ctx d = environmentFor ctx c) :
    ownName ctx d ≠ ownName ctx c := by
  intro heq
  rw [ownName, ownName, henvironment] at heq
  rw [henvironment, panelName_injective heq] at hd
  exact hne (hs.typeId_eq hc hd)

end Panel.Factory

open Panel.Factory (Settled bare gives_follow pages)

structure Mirrors (ctx : Context) (cat : ContentType.Catalog) (s : Site) : Prop where
  filed : ∀ id c, cat.types.get? id = some c → c.id = id
  exclusive : s.Exclusive
  recorded : ∀ environment id slug, s.slug? environment id = some slug ↔
    ∃ c, cat.Exposes id c ∧ environmentFor ctx c = environment ∧ c.panelSlug = slug
  registered : ∀ name, s.registry.contains name = true ↔
    ∃ id c, cat.Exposes id c ∧ ownName ctx c = name

namespace Mirrors

variable {ctx : Context} {cat cat' : ContentType.Catalog} {s t : Site} {c d : ContentType}
  {id id' : String} {present : Bool}

theorem slug?_of_exposes (h : Mirrors ctx cat s) (hc : cat.Exposes id c) :
    s.slug? (environmentFor ctx c) id = some c.panelSlug :=
  (h.recorded _ _ _).2 ⟨c, hc, rfl, rfl⟩

theorem ownName_ne (h : Mirrors ctx cat s) (hcat : cat.Distinct ctx) (hc : cat.Exposes id c)
    (hd : cat.types.get? id' = some d) (hne : id ≠ id') : ownName ctx d ≠ ownName ctx c := by
  by_cases henvironment : environmentFor ctx d = environmentFor ctx c
  · cases hexposes : d.status.exposesPanel with
    | false => exact hcat id c id' d hc hd hne (.inl hexposes)
    | true =>
      exact Panel.Factory.ownName_ne h.exclusive (h.slug?_of_exposes hc)
        (h.slug?_of_exposes ⟨hd, hexposes⟩) hne henvironment
  · exact hcat id c id' d hc hd hne (.inr henvironment)

structure Rewrites (c : ContentType) (present : Bool) (cat cat' : ContentType.Catalog) : Prop where
  others : ∀ id, id ≠ c.id → cat'.types.get? id = cat.types.get? id
  filed : ∀ d, cat'.types.get? c.id = some d → d = c
  self : present = true ↔ cat'.Exposes c.id c

theorem Rewrites.exposes (hcat : Rewrites c present cat cat') (hne : id ≠ c.id) :
    cat'.Exposes id d ↔ cat.Exposes id d := by
  rw [ContentType.Catalog.Exposes, hcat.others id hne, ContentType.Catalog.Exposes]

theorem Rewrites.recorded (hcat : Rewrites c present cat cat') (h : Mirrors ctx cat s)
    (hstays : ∀ d, cat.Exposes c.id d → environmentFor ctx d = environmentFor ctx c)
    (hsettled : Settled ctx c present s t) (environment id slug : String) :
    t.slug? environment id = some slug ↔
      ∃ d, cat'.Exposes id d ∧ environmentFor ctx d = environment ∧ d.panelSlug = slug := by
  rw [Site.slug?_congr hsettled.slugs, Site.slug?_withSlug]
  split
  · rename_i hsame
    rw [hsame.1, hsame.2, Option.ite_none_right_eq_some, Option.some_inj, hcat.self]
    constructor
    · rintro ⟨hc, hslug⟩
      exact ⟨c, hc, rfl, hslug⟩
    · rintro ⟨d, hd, -, hslug⟩
      have heq := hcat.filed d hd.1
      rw [heq] at hd hslug
      exact ⟨hd, hslug⟩
  · rename_i hother
    rw [h.recorded]
    refine exists_congr fun d => and_congr_left fun ⟨henvironment, _⟩ => ?_
    by_cases hid : id = c.id
    · rw [hid]
      constructor
      · intro hd
        exact absurd ⟨henvironment.symm.trans (hstays d hd), hid⟩ hother
      · intro hd
        rw [hcat.filed d hd.1] at henvironment
        exact absurd ⟨henvironment.symm, hid⟩ hother
    · exact (hcat.exposes hid).symm

theorem Rewrites.registered (hcat : Rewrites c present cat cat') (h : Mirrors ctx cat s)
    (hdistinct : cat.Distinct ctx)
    (hstays : ∀ d, cat.Exposes c.id d → environmentFor ctx d = environmentFor ctx c)
    (hnames : ∀ id d, id ≠ c.id → cat.Exposes id d → ownName ctx d ≠ ownName ctx c)
    (hsettled : Settled ctx c present s t) (name : String) :
    t.registry.contains name = true ↔ ∃ id d, cat'.Exposes id d ∧ ownName ctx d = name := by
  constructor
  · intro hname
    rcases hsettled.grown name hname with ⟨hpresent, heq⟩ | hbefore
    · exact ⟨c.id, c, hcat.self.1 hpresent, heq.symm⟩
    · obtain ⟨id, d, hd, hown⟩ := (h.registered name).1 hbefore
      by_cases hid : id = c.id
      · -- the panel the content type had before is still there, so it is the one it has now
        rw [hid] at hd
        have hold := h.slug?_of_exposes hd
        rw [hstays d hd] at hold
        have hwas : panelName d.panelSlug (environmentFor ctx c) = name := by
          rw [← hown, ownName, hstays d hd]
        obtain ⟨hpresent, heq⟩ := hsettled.left _ hold (hwas ▸ hname)
        exact ⟨c.id, c, hcat.self.1 hpresent, heq.symm.trans hwas⟩
      · exact ⟨id, d, (hcat.exposes hid).2 hd, hown⟩
  · rintro ⟨id, d, hd, hown⟩
    rw [← hown]
    by_cases hid : id = c.id
    · rw [hid] at hd
      have heq := hcat.filed d hd.1
      rw [heq] at hd ⊢
      exact hsettled.own (hcat.self.2 hd)
    · have hbefore := (hcat.exposes hid).1 hd
      refine hsettled.kept _ ((h.registered _).2 ⟨id, d, hbefore, rfl⟩) (hnames id d hid hbefore) ?_
      intro old hold
      obtain ⟨was, hwas, henvironment, hslug⟩ := (h.recorded _ _ _).1 hold
      rw [← henvironment, ← hslug]
      exact (h.ownName_ne hdistinct hwas hbefore.1 (Ne.symm hid))

theorem rewrites (h : Mirrors ctx cat s) (hcat : Rewrites c present cat cat')
    (hdistinct : cat.Distinct ctx)
    (hstays : ∀ d, cat.Exposes c.id d → environmentFor ctx d = environmentFor ctx c)
    (hnames : ∀ id d, id ≠ c.id → cat.Exposes id d → ownName ctx d ≠ ownName ctx c)
    (ht : t.Exclusive ∧ Settled ctx c present s t) : Mirrors ctx cat' t where
  filed id d hd := by
    by_cases hid : id = c.id
    · rw [hid] at hd
      rw [hcat.filed d hd, hid]
    · exact h.filed id d (hcat.others id hid ▸ hd)
  exclusive := ht.1
  recorded := hcat.recorded h hstays ht.2
  registered := hcat.registered h hdistinct hstays hnames ht.2

theorem rewrites_write (c : ContentType) (cat : ContentType.Catalog) :
    Rewrites c c.status.exposesPanel cat (cat.write c) where
  others _ hid := Dict.get?_set_ne _ hid _
  filed _ hd := Option.some.inj (hd.symm.trans (Dict.get?_set_self _ _ _))
  self := ⟨fun hc => ⟨Dict.get?_set_self _ _ _, hc⟩, And.right⟩

theorem rewrites_erase (c : ContentType) (cat : ContentType.Catalog) :
    Rewrites c false cat ⟨cat.types.erase c.id⟩ where
  others _ hid := Dict.get?_erase_ne _ hid
  filed _ hd := by cases (Dict.get?_erase_self _ _).symm.trans hd
  self := by
    constructor
    · intro h
      cases h
    · intro h
      cases (Dict.get?_erase_self _ _).symm.trans h.1

theorem write (h : Mirrors ctx cat s) (hdistinct : cat.Distinct ctx)
    (hdistinct' : (cat.write c).Distinct ctx)
    (hstays : ∀ d, cat.Exposes c.id d → environmentFor ctx d = environmentFor ctx c)
    (ht : t.Exclusive ∧ Settled ctx c c.status.exposesPanel s t) : Mirrors ctx (cat.write c) t := by
  -- two panels in one environment have different names because both slugs were accepted
  have hcat := rewrites_write c cat
  refine h.rewrites hcat hdistinct hstays (fun id d hid hd => ?_) ht
  have hd' := (hcat.exposes hid).2 hd
  have hc' : (cat.write c).types.get? c.id = some c := Dict.get?_set_self _ _ _
  have hrecorded := hcat.recorded h hstays ht.2
  by_cases henvironment : environmentFor ctx d = environmentFor ctx c
  · cases hexposes : c.status.exposesPanel with
    | false => exact Ne.symm (hdistinct' id d c.id c hd' hc' hid (.inl hexposes))
    | true =>
      exact Panel.Factory.ownName_ne ht.1 ((hrecorded _ _ _).2 ⟨c, ⟨hc', hexposes⟩, rfl, rfl⟩)
        ((hrecorded _ _ _).2 ⟨d, hd', rfl, rfl⟩) (Ne.symm hid) henvironment
  · exact Ne.symm (hdistinct' id d c.id c hd' hc' hid (.inr (Ne.symm henvironment)))

theorem erase (h : Mirrors ctx cat s) (hdistinct : cat.Distinct ctx)
    (hc : cat.types.get? c.id = some c) (ht : t.Exclusive ∧ Settled ctx c false s t) :
    Mirrors ctx ⟨cat.types.erase c.id⟩ t := by
  refine h.rewrites (rewrites_erase c cat) hdistinct (fun d hd => ?_) (fun id d hid hd => ?_) ht
  · rw [Option.some.inj (hd.1.symm.trans hc)]
  · exact Ne.symm (h.ownName_ne hdistinct hd hc hid)

end Mirrors

namespace Office

open Call (ensures_now ensures_fresh ensures_state ensures_atomic)

variable {ctx : Context} {o : Office}

inductive Write where
  | create (c : ContentType)
  | update (c : ContentType)
  | delete (id : String)

namespace Write

def call (ctx : Context) : Write → Call Office Unit
  | create c => do let _ ← createType ctx c
  | update c => do let _ ← updateType ctx c
  | delete id => deleteType ctx id

def Stays (ctx : Context) (cat : ContentType.Catalog) : Write → Prop
  | update c => ∀ d, cat.Exposes c.id d → environmentFor ctx d = environmentFor ctx c
  | _ => True

end Write

theorem ensures_writeType {event : ContentType → ContentType.Event}
    {f : ContentType.Catalog → Except Fault (ContentType × ContentType.Catalog)}
    {P : Except Fault ContentType → Office → Prop}
    (hstored : ∀ c catalog, f o.catalog = .ok (c, catalog) → if o.follows then
        (o.factory.follow o.services.runtime ctx (event c)).Ensures o.site
          fun r t => P ((fun _ => c) <$> r) { o with catalog, site := t }
      else P (.ok c) { o with catalog })
    (hrefused : ∀ e, f o.catalog = .error e → P (.error e) o) :
    (writeType event ctx f).Ensures o P := by
  refine Ensures.seq (ensures_atomic (fun c o' hc => ?_) fun e he => ?_)
  · obtain ⟨⟨c, catalog⟩, hwrite, hc⟩ := bind_eq_ok.1 hc
    cases hc
    have hfollow := hstored c catalog hwrite
    refine Ensures.seq (ensures_state ?_)
    dsimp only
    split at hfollow
    · rename_i hfollows
      rw [if_pos hfollows]
      refine Ensures.bind (P := fun r o' => P ((fun _ => c) <$> r) o') ?_ ?_ fun _ _ h => h
      · exact Ensures.seq (ensures_state (Ensures.within hfollow))
      · exact fun _ _ h => ensures_pure h
    · rename_i hfollows
      rw [if_neg hfollows]
      exact ensures_pure hfollow
  · rcases bind_eq_error.1 he with hrefuse | ⟨_, -, ⟨⟩⟩
    exact hrefused e hrefuse

theorem gives_writeType {event : ContentType → ContentType.Event}
    {f : ContentType.Catalog → Except Fault (ContentType × ContentType.Catalog)} {Q : Office → Prop}
    (hfollows : o.follows = true)
    (hf : ∀ c catalog, f o.catalog = .ok (c, catalog) →
      (o.factory.follow o.services.runtime ctx (event c)).Gives o.site
        fun _ t => Q { o with catalog, site := t }) :
    (writeType event ctx f).Gives o fun _ o' => Q o' := by
  refine ensures_writeType (fun c catalog hwrite => ?_) fun _ _ _ => nofun
  rw [if_pos hfollows]
  refine (hf c catalog hwrite).imp fun r t h a ha => ?_
  cases r with
  | ok b => exact h b rfl
  | error e => cases ha

structure Following (ctx : Context) (o : Office) : Prop where
  follows : o.follows = true
  distinct : o.catalog.Distinct ctx
  mirrors : Mirrors ctx o.catalog o.site

theorem environmentFor_of_key {c d : ContentType} (h : d.environment = Text.key c.environment) :
    environmentFor ctx d = environmentFor ctx c := by
  unfold environmentFor
  rw [h, Text.key_key]

theorem gives_createType (ho : Following ctx o) (c : ContentType) :
    (createType ctx c).Gives o fun _ o' => o'.catalog.Distinct ctx → Following ctx o' := by
  refine Ensures.seq (ensures_now fun now => Ensures.seq (ensures_fresh fun fresh => ?_))
  refine gives_writeType ho.follows fun d catalog hcreate => ?_
  obtain ⟨-, habsent, -, rfl⟩ := ContentType.Catalog.create_eq_ok hcreate
  have hunexposed : ∀ e, ¬o.catalog.Exposes d.id e := fun e he => by cases habsent.symm.trans he.1
  have hnew : o.site.slug? (environmentFor ctx d) d.id = none := by
    rw [Option.eq_none_iff_forall_ne_some]
    intro slug hslug
    obtain ⟨e, he, -⟩ := (ho.mirrors.recorded _ _ _).1 hslug
    exact hunexposed e he
  refine (gives_follow _ _ ctx (.created d) ho.mirrors.exclusive ?_).imp
    fun r t h a ha hdistinct => ?_
  · rintro _ ⟨⟩
    exact hnew
  · refine ⟨ho.follows, hdistinct, ho.mirrors.write ho.distinct hdistinct ?_ (h a ha)⟩
    exact fun e he => absurd he (hunexposed e)

theorem gives_updateType (ho : Following ctx o) {c : ContentType}
    (hstays : (Write.update c).Stays ctx o.catalog) :
    (updateType ctx c).Gives o fun _ o' => o'.catalog.Distinct ctx → Following ctx o' := by
  refine Ensures.seq (ensures_now fun now => ?_)
  refine gives_writeType ho.follows fun d catalog hupdate => ?_
  obtain ⟨hid, henvironment, rfl⟩ := ContentType.Catalog.write_of_update hupdate
  refine (gives_follow _ _ ctx (.updated d) ho.mirrors.exclusive (by rintro _ ⟨⟩)).imp
    fun r t h a ha hdistinct => ?_
  refine ⟨ho.follows, hdistinct, ho.mirrors.write ho.distinct hdistinct (fun e he => ?_) (h a ha)⟩
  rw [hid] at he
  exact (hstays e he).trans (environmentFor_of_key henvironment).symm

theorem gives_deleteType (ho : Following ctx o) (id : String) :
    (deleteType ctx id).Gives o fun _ o' => o'.catalog.Distinct ctx → Following ctx o' := by
  refine Gives.bind (Q := fun _ o' => o'.catalog.Distinct ctx → Following ctx o')
    (gives_writeType ho.follows fun d catalog hdelete => ?_) fun _ _ h => ensures_pure fun _ _ => h
  obtain ⟨hd, rfl⟩ := ContentType.Catalog.erase_of_delete hdelete
  obtain rfl := ho.mirrors.filed id d hd
  refine (gives_follow _ _ ctx (.deleted d) ho.mirrors.exclusive (by rintro _ ⟨⟩)).imp
    fun r t h a ha hdistinct => ?_
  exact ⟨ho.follows, hdistinct, ho.mirrors.erase ho.distinct hd (h a ha)⟩

theorem gives_call {w : Write} (ho : Following ctx o) (hstays : w.Stays ctx o.catalog) :
    (w.call ctx).Gives o fun _ o' => o'.catalog.Distinct ctx → Following ctx o' := by
  cases w with
  | create c => exact (gives_createType ho c).bind fun _ _ h => ensures_pure fun _ _ => h
  | update c => exact (gives_updateType ho hstays).bind fun _ _ h => ensures_pure fun _ _ => h
  | delete id => exact gives_deleteType ho id

/-- What a row of writes leaves, all made under one context and all successful, in which no content
type with a panel changes its environment and no other one gets the name of a panel. -/
inductive Run (ctx : Context) : Office → Prop
  | start {o : Office} : o.follows = true → o.catalog.types = .empty →
      o.site.registry.panels = .empty → o.site.slugs = [] → Run ctx o
  | write {o : Office} (w : Write) (supply : Supply) : Run ctx o → w.Stays ctx o.catalog →
      (w.call ctx (supply, o)).1.isOk = true →
      (w.call ctx (supply, o)).2.2.catalog.Distinct ctx → Run ctx (w.call ctx (supply, o)).2.2

theorem Run.following (h : Run ctx o) : Following ctx o := by
  induction h with
  | @start o hfollows hcatalog hregistry hslugs =>
    have hnothing : ∀ id, o.catalog.types.get? id = none :=
      fun id => by rw [hcatalog, Dict.get?_empty]
    have hunexposed : ∀ id c, ¬o.catalog.Exposes id c :=
      fun id c hc => by cases (hnothing id).symm.trans hc.1
    refine ⟨hfollows, fun id c _ _ hc => absurd hc (hunexposed id c), ?_⟩
    constructor
    case filed => exact fun id c hc => by cases (hnothing id).symm.trans hc
    case exclusive => constructor <;> simp [hslugs]
    case recorded => simp [Site.slug?, hslugs, hunexposed]
    case registered => simp [Panel.Registry.contains, Dict.contains, hregistry, hunexposed]
  | @write o w supply _ hstays hok hdistinct ih =>
    refine gives_call ih hstays supply () ?_ hdistinct
    generalize (w.call ctx (supply, o)).1 = r at hok ⊢
    cases r with
    | ok _ => rfl
    | error e => cases hok

theorem panels_mirror_catalog (h : Run ctx o) :
    (∀ name, o.site.registry.contains name = true ↔
        ∃ id c, o.catalog.Exposes id c ∧ ownName ctx c = name) ∧
      (∀ id c id' d, o.catalog.Exposes id c → o.catalog.Exposes id' d →
        ownName ctx c = ownName ctx d → id = id') ∧
      (∀ r, r ∈ o.site.slugs ↔ ∃ c, o.catalog.Exposes r.typeId c ∧
        environmentFor ctx c = r.environment ∧ c.panelSlug = r.slug) ∧
      (o.site.slugs.map (·.typeId)).Nodup := by
  obtain ⟨-, hdistinct, hmirrors⟩ := h.following
  have hslugs : ∀ r, r ∈ o.site.slugs ↔ ∃ c, o.catalog.Exposes r.typeId c ∧
      environmentFor ctx c = r.environment ∧ c.panelSlug = r.slug := fun r =>
    hmirrors.exclusive.mem_slugs_iff.trans (hmirrors.recorded _ _ _)
  refine ⟨hmirrors.registered, fun id c id' d hc hd heq => ?_, hslugs, ?_⟩
  · exact Decidable.byContradiction fun hne => hmirrors.ownName_ne hdistinct hc hd.1 hne heq.symm
  · -- the entries of one content type are all in its environment, so there is one
    rw [List.Nodup, List.pairwise_map]
    refine hmirrors.exclusive.pairwise.imp_of_mem fun {r r'} hr hr' hpair htype => ?_
    obtain ⟨c, hc, henvironment, -⟩ := (hslugs r).1 hr
    obtain ⟨d, hd, henvironment', -⟩ := (hslugs r').1 hr'
    rw [htype] at hc
    have hcd : c = d := Option.some.inj (hc.1.symm.trans hd.1)
    rw [hcd] at henvironment
    exact (hpair (henvironment.symm.trans henvironment')).1 htype

def vacant : Office where
  config := .standard
  authorizer := .allowAll
  authenticator := .headers
  services := ⟨.empty, .empty⟩
  site := ⟨.empty false, .empty, []⟩
  catalog := .empty
  factory := bare
  follows := true
  dashboard := .empty
  modules := []
  navigation := .empty
  report := none
  queueLabel := fun _ => ""

def afterWrite (o : Office) (w : Write) : Office := (w.call .empty (⟨⟨0, 0⟩, 0⟩, o)).2.2

theorem panels_mirror_catalog_pages :
    let o := vacant.afterWrite (.create (pages .active "a"))
    Run .empty o ∧ o.site.registry.contains "pages@a" = true ∧
      ∃ id c, o.catalog.Exposes id c ∧ ownName .empty c = "pages@a" := by
  intro o
  have hkeys : o.catalog.types.keys = ["1"] := by decide
  have hid : ∀ id c, o.catalog.types.get? id = some c → id = "1" :=
    fun id c hc => List.mem_singleton.1 (hkeys ▸ Dict.mem_keys hc)
  have hdistinct : o.catalog.Distinct .empty :=
    fun id c id' d hc hd hne => absurd ((hid id c hc.1).trans (hid id' d hd).symm) hne
  have hrun : Run .empty o :=
    .write _ _ (.start rfl rfl rfl rfl) trivial (by decide) hdistinct
  have hpanel : o.site.registry.contains "pages@a" = true := by decide +kernel
  exact ⟨hrun, hpanel, ((panels_mirror_catalog hrun).1 "pages@a").1 hpanel⟩

/-- The panel of a content type stays where it was when its environment changes. -/
theorem panel_left_behind :
    let o := vacant.afterWrite (.create (pages .active "a"))
    let o' := o.afterWrite (.update (pages .active "b"))
    ((Write.create (pages .active "a")).call .empty (⟨⟨0, 0⟩, 0⟩, vacant)).1.isOk = true ∧
      ((Write.update (pages .active "b")).call .empty (⟨⟨0, 0⟩, 0⟩, o)).1.isOk = true ∧
      o'.catalog.types.keys = ["1"] ∧
      o'.site.slugs = [⟨"a", "1", "pages"⟩, ⟨"b", "1", "pages"⟩] ∧
      o'.site.registry.names = ["pages@a", "pages@b"] := by
  refine ⟨?_, ?_, ?_, ?_, ?_⟩ <;> decide +kernel

end Office

end Backoffice

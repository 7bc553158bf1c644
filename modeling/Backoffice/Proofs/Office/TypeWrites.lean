import Backoffice.Proofs.Panel.FailedCreation
import Backoffice.Proofs.Panel.Mirror

namespace Backoffice

namespace Call

variable {σ α β : Type} {s : σ} {F : Fault → σ → Prop}

abbrev FailsWith (c : Call σ α) (s : σ) (F : Fault → σ → Prop) : Prop :=
  c.Ensures s fun r t => ∀ e, r = .error e → F e t

theorem failsWith_pure {a : α} : (pure a : Call σ α).FailsWith s F :=
  ensures_pure (by rintro _ ⟨⟩)

theorem failsWith_throw {e : Fault} (h : F e s) : (throw e : Call σ α).FailsWith s F := by
  refine ensures_throw ?_
  rintro _ ⟨⟩
  exact h

theorem FailsWith.bind {c : Call σ α} {f : α → Call σ β} {P : Except Fault α → σ → Prop}
    (hc : c.Ensures s P) (hok : ∀ a t, P (.ok a) t → (f a).FailsWith t F)
    (herror : ∀ e t, P (.error e) t → F e t) : (c >>= f).FailsWith s F := by
  refine Ensures.bind hc hok fun e t h => ?_
  rintro _ ⟨⟩
  exact herror e t h

theorem FailsWith.answer {c : Call σ α} {g : α → β} (hc : c.FailsWith s F) :
    (c >>= fun a => pure (g a)).FailsWith s F :=
  FailsWith.bind hc (fun _ _ _ => failsWith_pure) fun e _ h => h e rfl

theorem Ensures.active {f : Unit → Call σ α} {P : Except Fault α → σ → Prop} {ctx : Context}
    (hactive : ctx.cancelled = false) (hf : (f ()).Ensures s P) :
    (ofExcept ctx.ensureActive >>= f).Ensures s P := by
  rw [Context.ensureActive_eq_ok.2 hactive]
  exact hf

theorem Ensures.and {c : Call σ α} {P Q : Except Fault α → σ → Prop} (hp : c.Ensures s P)
    (hq : c.Ensures s Q) : c.Ensures s fun r t => P r t ∧ Q r t :=
  fun supply => ⟨hp supply, hq supply⟩

end Call

open Call (Ensures FailsWith ensures_atomic ensures_change ensures_fresh ensures_now
  ensures_pure ensures_reads ensures_state failsWith_pure failsWith_throw)
open Panel.Factory (titled)

namespace ContentType

structure Filled (c : ContentType) : Prop where
  slug : Text.blank c.slug = false
  name : Text.blank c.name = false

variable {c d : ContentType}

theorem Filled.label (h : c.Filled) : Text.blank c.label = false := by
  simp [ContentType.label, h.name]

theorem Filled.panelSlug (h : c.Filled) : c.panelSlug ≠ "" := by
  apply Text.key_ne_empty
  cases hnamed : c.capabilityText? ["panel_slug", "panelSlug"] with
  | none => exact h.slug
  | some slug =>
    obtain ⟨key, -, hkey⟩ := List.exists_of_findSome?_eq_some hnamed
    obtain ⟨text, -, htext⟩ := Option.bind_eq_some_iff.1 hkey
    exact Text.blank_of_nonBlank htext

theorem filled_of_normalized (h : c.normalized = .ok d) : d.Filled := by
  obtain ⟨hslug, rfl⟩ := normalized_eq_ok h
  have hkey : Text.blank (Text.key c.slug) = false := Text.blank_key hslug
  constructor
  case slug => exact hkey
  case name =>
    dsimp only
    split
    · exact hkey
    · rename_i hname
      exact Bool.eq_false_iff.2 hname

namespace Catalog

variable {cat cat' : Catalog} {ctx : Context} {now : Instant} {fresh id : String}

theorem filled_of_create (h : cat.create ctx now fresh c = .ok (d, cat')) : d.Filled := by
  obtain ⟨⟨new, hnew, rfl⟩, -⟩ := create_eq_ok h
  have hfilled := filled_of_normalized hnew
  exact ⟨hfilled.slug, hfilled.name⟩

theorem filled_of_update (h : cat.update ctx now c = .ok (d, cat')) : d.Filled := by
  obtain ⟨new, current, hnew, -, rfl, -⟩ := update_eq_ok h
  have hfilled := filled_of_normalized hnew
  exact ⟨hfilled.slug, hfilled.name⟩

end Catalog

end ContentType

namespace Panel.Factory

variable {f : Factory} {runtime : Workflow.Runtime} {ctx : Context} {supply : Supply} {s t : Site}
  {c : ContentType} {position : Option Int} {e : Fault}

/-- Why a factory does not follow a content type. -/
inductive Rejects (f : Factory) (runtime : Workflow.Runtime) (ctx : Context) (c : ContentType)
    (s : Site) : Fault → Prop
  | schema {e : Fault} : f.validates = true → c.checkSchema = .error e → Rejects f runtime ctx c s e
  | taken : c.status.exposesPanel = true →
    s.isTaken (environmentFor ctx c) c.id c.panelSlug = true →
    Rejects f runtime ctx c s (.conflict ("panel slug already registered: " ++ c.panelSlug))
  | unbuilt {e : Fault} : c.status.exposesPanel = true →
    f.buildPanel runtime ctx c (environmentFor ctx c) c.panelSlug = .error e →
    Rejects f runtime ctx c s e
  | menu : c.status.exposesPanel = true → f.hasMenus = true → Text.key f.menuCode = "" →
    Rejects f runtime ctx c s (.invalid "code" "menu code is required")

theorem Rejects.congr (h : f.Rejects runtime ctx c t e)
    (hslug : t.isTaken (environmentFor ctx c) c.id c.panelSlug =
      s.isTaken (environmentFor ctx c) c.id c.panelSlug) : f.Rejects runtime ctx c s e := by
  cases h with
  | schema hvalidates hschema => exact .schema hvalidates hschema
  | taken hc htaken => exact .taken hc (hslug ▸ htaken)
  | unbuilt hc hbuilt => exact .unbuilt hc hbuilt
  | menu hc hmenus hcode => exact .menu hc hmenus hcode

theorem createAt_rejects (hs : s.menus.Orderly) (hfilled : c.Filled)
    (hactive : ctx.cancelled = false) (position : Option Int) :
    (f.createAt runtime ctx c position).FailsWith s fun e _ => f.Rejects runtime ctx c s e := by
  intro supply e he
  have h := Prod.ext (y := (Except.error e, _)) he rfl
  cases hc : c.status.exposesPanel with
  | false =>
    rcases Call.ofExcept_bind_eq_error.1 h with ⟨hcancelled, -⟩ | ⟨_, -, h⟩
    · cases (Context.ensureActive_eq_ok.2 hactive).symm.trans hcancelled
    dsimp only at h
    rw [hc, if_neg Bool.false_ne_true] at h
    rcases Call.checked_eq_error h with ⟨-, hvalidates, hschema⟩ | h
    · exact .schema hvalidates hschema
    · obtain ⟨u, hcleaned⟩ := exists_cleanup_eq supply hs hactive f c (environmentFor ctx c)
      rw [Call.bind_apply_ok hcleaned] at h
      cases h
  | true =>
    rw [createAt_apply hc, hactive, if_neg Bool.false_ne_true, if_neg hfilled.panelSlug] at h
    split at h
    · rename_i htaken
      cases h
      exact .taken hc htaken
    split at h
    · cases h
    rename_i hlink
    cases h
    rcases link_eq_error (s := s.withSlug (environmentFor ctx c) c.id (some c.panelSlug)) hs hactive
      hlink with ⟨-, ⟨hvalidates, hschema⟩ | hbuilt⟩ | ⟨hmenus, p, menus, -, hrefused, -⟩
    · exact .schema hvalidates hschema
    · exact .unbuilt hc hbuilt
    · cases hrefused with
      | code _ hcode =>
        rw [menuItem_menuCode] at hcode
        exact .menu hc hmenus hcode
      | label _ hlabel =>
        rw [menuItem_label, hfilled.label] at hlabel
        cases hlabel

theorem isTaken_congr (h : t.slugs = s.slugs) (environment typeId slug : String) :
    t.isTaken environment typeId slug = s.isTaken environment typeId slug := by
  rw [Site.isTaken, h, Site.isTaken]

theorem reserve_rejects (f : Factory) (runtime : Workflow.Runtime)
    (hc : c.status.exposesPanel = true) :
    (Site.reserve (environmentFor ctx c) c.id c.panelSlug).Ensures s fun r t =>
      (∀ e, r = .error e → f.Rejects runtime ctx c s e) ∧
        ∀ a, r = .ok a → t = s.withSlug (environmentFor ctx c) c.id (some c.panelSlug) := by
  intro supply
  rw [Site.reserve_apply]
  split
  · rename_i htaken
    refine ⟨?_, by rintro _ ⟨⟩⟩
    rintro _ ⟨⟩
    exact .taken hc htaken
  · exact ⟨by rintro _ ⟨⟩, fun _ _ => rfl⟩

theorem leave_rejects (f : Factory) (runtime : Workflow.Runtime) (hs : s.menus.Orderly)
    (hactive : ctx.cancelled = false) (old : String) {exposes : Bool}
    (hexposes : exposes = true → c.status.exposesPanel = true) :
    (f.leave ctx c (environmentFor ctx c) old exposes).Ensures s fun r t =>
      (∀ e, r = .error e → f.Rejects runtime ctx c s e) ∧
        ∀ a, r = .ok a → t.isTaken (environmentFor ctx c) c.id c.panelSlug =
          s.isTaken (environmentFor ctx c) c.id c.panelSlug := by
  have hdetach (u : Site) (hu : u.menus.Orderly) : (f.detach ctx
      (panelName old (environmentFor ctx c))).Ensures u fun r t => r = .ok () ∧
        t.slugs = u.slugs := by
    intro supply
    have hslugs := (ensures_detach f ctx (panelName old (environmentFor ctx c)) u supply).slugs
    obtain ⟨t, ht⟩ := exists_detach_eq supply hu hactive f (panelName old (environmentFor ctx c))
    rw [ht] at hslugs ⊢
    exact ⟨rfl, hslugs⟩
  cases exposes with
  | false =>
    refine Ensures.seq (ensures_reads (Ensures.seq (Ensures.attempt ((hdetach s hs).imp ?_))))
    rintro _ t ⟨rfl, hslugs⟩
    refine Ensures.seq (ensures_change (ensures_pure ?_))
    refine ⟨by rintro _ ⟨⟩, fun _ _ => ?_⟩
    exact (isTaken_withSlug_self t _ _ none _).trans (isTaken_congr hslugs _ _ _)
  | true =>
    refine (reserve_rejects f runtime (hexposes rfl)).bind (fun a t h => ?_) fun e t h => ?_
    · obtain rfl := h.2 a rfl
      have hdetached := hdetach (s.withSlug (environmentFor ctx c) c.id (some c.panelSlug)) hs
      refine Ensures.seq (ensures_reads (Ensures.seq (Ensures.attempt (hdetached.imp ?_))))
      rintro _ t ⟨rfl, hslugs⟩
      refine ensures_pure ⟨by rintro _ ⟨⟩, fun _ _ => ?_⟩
      exact (isTaken_congr hslugs _ _ _).trans (isTaken_withSlug_self s _ _ _ _)
    · refine ⟨?_, by rintro _ ⟨⟩⟩
      rintro _ ⟨⟩
      exact h.1 e rfl

theorem refresh_rejects (hs : s.menus.Orderly) (hfilled : c.Filled)
    (hactive : ctx.cancelled = false) :
    (f.refresh runtime ctx c).FailsWith s fun e _ => f.Rejects runtime ctx c s e := by
  refine Ensures.active hactive (Ensures.seq (ensures_reads ?_))
  dsimp only
  split
  · exact createAt_rejects hs hfilled hactive none
  rename_i old _
  generalize hexposes : (c.status.exposesPanel && c.panelSlug != "") = exposes
  have hleave := leave_rejects f runtime hs hactive old fun h : exposes = true =>
    (Bool.and_eq_true_iff.1 (hexposes.trans h)).1
  have htidy := (tidies_leave f ctx c (environmentFor ctx c) old exposes).leaves s hs
  refine FailsWith.bind (hleave.and htidy) (fun position t h => ?_) fun e t h => h.1.1 e rfl
  obtain ⟨⟨-, htaken⟩, ht⟩ := h
  refine Ensures.seq (Ensures.attempt ((createAt_rejects ht hfilled hactive position).imp ?_))
  intro r u hr
  cases r with
  | ok p => exact failsWith_pure
  | error e =>
    -- nobody else got the slug while the old one was left
    have hrejects := (hr e rfl).congr (htaken position rfl)
    dsimp only
    split
    · exact Ensures.seq (ensures_change (failsWith_throw hrejects))
    · exact failsWith_throw hrejects

theorem remove_fails_never (hs : s.menus.Orderly) (hactive : ctx.cancelled = false) :
    (f.remove ctx c).FailsWith s fun _ _ => False := by
  refine Ensures.active hactive ?_
  intro supply e he
  obtain ⟨t, hcleaned⟩ := exists_cleanup_eq supply hs hactive f c (environmentFor ctx c)
  rw [hcleaned] at he
  cases he

end Panel.Factory

namespace Office

variable {ctx : Context} {o o' : Office} {supply later : Supply} {e : Fault} {w : Write}
  {now : Instant} {fresh : String} {cat : ContentType.Catalog}

namespace Write

def change (ctx : Context) (now : Instant) (fresh : String) (cat : ContentType.Catalog) :
    Write → Except Fault (ContentType × ContentType.Catalog)
  | create c => cat.create ctx now fresh c
  | update c => cat.update ctx now c
  | delete id => cat.delete ctx id

def event : Write → ContentType → ContentType.Event
  | create _ => .created
  | update _ => .updated
  | delete _ => .deleted

def Rejected (ctx : Context) (o : Office) (c : ContentType) (e : Fault) : Write → Prop
  | create _ | update _ => o.factory.Rejects o.services.runtime ctx c o.site e
  | delete _ => False

theorem active_of_change {r : ContentType × ContentType.Catalog}
    (h : w.change ctx now fresh cat = .ok r) : ctx.cancelled = false := by
  apply Context.ensureActive_eq_ok.1
  cases w with
  | create c | update c => exact (bind_eq_ok.1 h).elim fun _ h => h.1
  | delete id =>
    obtain ⟨_, h, -⟩ := bind_eq_ok.1 h
    exact (bind_eq_ok.1 h).elim fun _ h => h.1

end Write

/-- What a write that fails leaves: all as it was, or what it stores when it succeeds. -/
inductive Failed (ctx : Context) (w : Write) (o : Office) (e : Fault) : Office → Prop
  | refused {now : Instant} {fresh : String} : w.change ctx now fresh o.catalog = .error e →
    Failed ctx w o e o
  /-- The write is stored, and the panels did not follow. -/
  | stranded {now : Instant} {fresh : String} {c : ContentType} {catalog : ContentType.Catalog}
    {site : Site} : w.change ctx now fresh o.catalog = .ok (c, catalog) →
    (o.site.menus.Orderly → w.Rejected ctx o c e) → Failed ctx w o e { o with catalog, site }

theorem follow_rejects {r : ContentType × ContentType.Catalog}
    (h : w.change ctx now fresh o.catalog = .ok r) (hs : o.site.menus.Orderly) :
    (o.factory.follow o.services.runtime ctx (w.event r.1)).FailsWith o.site
      fun e _ => w.Rejected ctx o r.1 e := by
  have hactive := w.active_of_change h
  cases w with
  | create c =>
    exact (Panel.Factory.createAt_rejects hs (ContentType.Catalog.filled_of_create h) hactive
      none).answer
  | update c =>
    exact (Panel.Factory.refresh_rejects hs (ContentType.Catalog.filled_of_update h)
      hactive).answer
  | delete id => exact Panel.Factory.remove_fails_never hs hactive

theorem writeType_fails (hfollows : o.follows = true) (w : Write) (now : Instant)
    (fresh : String) :
    (writeType w.event ctx fun cat => w.change ctx now fresh cat).FailsWith o
      fun e o' => Failed ctx w o e o' := by
  refine ensures_writeType (fun c catalog hchange => ?_) fun e hrefused => ?_
  · rw [if_pos hfollows]
    intro supply e he
    refine .stranded hchange fun hs => follow_rejects hchange hs supply e ?_
    exact error_of_map he.symm
  · rintro _ ⟨⟩
    exact .refused hrefused

theorem failed_write (hfollows : o.follows = true)
    (h : w.call ctx (supply, o) = (.error e, later, o')) : Failed ctx w o e o' := by
  have hcall : (w.call ctx).FailsWith o fun e o' => Failed ctx w o e o' := by
    cases w with
    | create c =>
      refine FailsWith.answer (Ensures.seq (ensures_now fun now => ?_))
      refine Ensures.seq (ensures_fresh fun fresh => ?_)
      exact writeType_fails hfollows (.create c) now fresh
    | update c =>
      refine FailsWith.answer (Ensures.seq (ensures_now fun now => ?_))
      exact writeType_fails hfollows (.update c) now ""
    | delete id => exact (writeType_fails hfollows (.delete id) ⟨0, 0⟩ "").answer
  have hr := hcall supply e
  rw [h] at hr
  exact hr rfl

def newsOf (id slug : String) : ContentType := titled id slug slug [("panel_slug", .str "news")]

/-- Of two content types with one panel slug the second is refused, and stored. -/
theorem rejected_write_stays :
    let o := vacant.afterWrite (.create (newsOf "1" "pages"))
    let w := Write.create (newsOf "2" "posts")
    o.follows = true ∧ o.catalog.types.keys = ["1"] ∧
      (w.call .empty (⟨⟨0, 0⟩, 0⟩, o)).1 =
        .error (.conflict "panel slug already registered: news") ∧
      (o.afterWrite w).catalog.types.keys = ["1", "2"] := by
  refine ⟨?_, ?_, ?_, ?_⟩ <;> decide +kernel

/-- The slug of the panel is taken, so the content type is stored and has none. -/
theorem failed_write_news :
    let o := vacant.afterWrite (.create (newsOf "1" "pages"))
    let w := Write.create (newsOf "2" "posts")
    ∃ e later o' c, w.call .empty (⟨⟨0, 0⟩, 0⟩, o) = (.error e, later, o') ∧
      Failed .empty w o e o' ∧ o'.catalog.types.get? c.id = some c ∧
      o.factory.Rejects o.services.runtime .empty c o.site e := by
  intro o w
  have hfollows : o.follows = true := by decide
  have hmenus : o.site.menus = .empty := rfl
  have hrun : (w.call .empty (⟨⟨0, 0⟩, 0⟩, o)).1.isOk = false ∧ o.catalog.types.keys = ["1"] ∧
      (w.call .empty (⟨⟨0, 0⟩, 0⟩, o)).2.2.catalog.types.keys = ["1", "2"] := by
    decide +kernel
  rcases hcall : w.call .empty (⟨⟨0, 0⟩, 0⟩, o) with ⟨e | a, later, o'⟩
  · rw [hcall] at hrun
    obtain ⟨-, hbefore, hafter⟩ := hrun
    have hfailed := failed_write hfollows hcall
    cases hfailed with
    | refused => cases hbefore.symm.trans hafter
    | @stranded now fresh c catalog site hchange hrejected =>
      refine ⟨e, later, _, c, rfl, failed_write hfollows hcall, ?_, ?_⟩
      · obtain ⟨-, -, -, rfl⟩ := ContentType.Catalog.create_eq_ok hchange
        exact Dict.get?_set_self _ _ _
      · exact hrejected (hmenus ▸ Menu.Service.orderly_empty)
  · rw [hcall] at hrun
    cases hrun.1

end Office

end Backoffice

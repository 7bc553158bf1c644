import Backoffice.Proofs.Panel.Entries
import Mathlib.Logic.Relation

namespace Backoffice

open Call (Ensures Gives ensures_change ensures_pure ensures_reads gives_true)
open Relation (ReflTransGen)

namespace Panel

def Adapter.Finds (a : Adapter) (h : SearchHit) : Prop := ∃ record, a.hit? record = some h

theorem Adapter.search_finds (a : Adapter) (ctx : Context) (query : String) (limit : Nat)
    (services : Services) :
    (a.search ctx query limit).Gives services fun hits _ => ∀ h ∈ hits, a.Finds h := by
  refine Gives.bind gives_true fun page _ _ => ensures_pure ?_
  rintro hits ⟨⟩ h hh
  obtain ⟨record, -, hrecord⟩ := List.mem_filterMap.1 hh
  exact ⟨record, hrecord⟩

namespace Registry

structure Free (r : Registry) (name : String) : Prop where
  panel : r.panels.get? name = none
  adapter : r.adapters.get? name = none
  attachment : r.attachments.get? name = none

variable {r r' : Registry} {name : String}

theorem free_erase (r : Registry) (name : String) : (r.erase name).Free name :=
  ⟨Dict.get?_erase_self _ _, Dict.get?_erase_self _ _, Dict.get?_erase_self _ _⟩

theorem Free.congr (hr : r.Free name) (h : r.SameAt r' name) : r'.Free name :=
  ⟨h.panel.trans hr.panel, h.adapter.trans hr.adapter, h.attachment.trans hr.attachment⟩

theorem Free.erase_eq (hr : r.Free name) : r.erase name = r := by
  rw [erase, Dict.erase_of_get?_eq_none hr.panel, Dict.erase_of_get?_eq_none hr.adapter,
    Dict.erase_of_get?_eq_none hr.attachment]

theorem searchIn_finds (r : Registry) (ctx : Context) (query : String) (limit : Nat)
    (adapters : List (String × Adapter)) (services : Services) :
    (r.searchIn ctx query limit adapters).Gives services fun hits _ =>
      ∀ h ∈ hits, ∃ e ∈ adapters, e.2.Finds h := by
  induction adapters generalizing limit services with
  | nil =>
    refine ensures_pure ?_
    rintro hits ⟨⟩ h ⟨⟩
  | cons e rest ih =>
    have hlater : ∀ limit services, (r.searchIn ctx query limit rest).Gives services fun hits _ =>
        ∀ h ∈ hits, ∃ e' ∈ e :: rest, e'.2.Finds h := by
      refine fun limit services => (ih limit services).imp fun _ _ hrest hits hhits h hh => ?_
      obtain ⟨e', he', hfinds⟩ := hrest hits hhits h hh
      exact ⟨e', List.mem_cons_of_mem e he', hfinds⟩
    refine Gives.bind gives_true fun _ t _ => ?_
    split
    · refine Gives.bind (e.2.search_finds ctx query limit t) fun found t' hfound => ?_
      have hfirst : ∀ h ∈ found, ∃ e' ∈ e :: rest, e'.2.Finds h :=
        fun h hh => ⟨e, List.mem_cons_self, hfound h hh⟩
      split
      · refine ensures_pure ?_
        rintro hits ⟨⟩ h hh
        exact hfirst h (List.mem_of_mem_take hh)
      · refine Gives.bind (hlater _ t') fun later _ hrest => ensures_pure ?_
        rintro hits ⟨⟩ h hh
        exact (List.mem_append.1 hh).elim (hfirst h) (hrest h)
    · exact hlater limit t

theorem search_finds (r : Registry) (ctx : Context) (query : String) (limit : Nat)
    (services : Services) :
    (r.search ctx query limit).Gives services fun hits _ =>
      ∀ h ∈ hits, ∃ other a, r.adapters.get? other = some a ∧ a.Finds h := by
  unfold search
  split
  · refine ensures_pure ?_
    rintro hits ⟨⟩ h ⟨⟩
  · refine (r.searchIn_finds ctx _ limit _ services).imp fun _ _ hfinds hits hhits h hh => ?_
    obtain ⟨e, he, hfound⟩ := hfinds hits hhits h hh
    exact ⟨e.1, e.2, (Entries.get?_eq_some_iff r.adapters.sorted).2 he, hfound⟩

end Registry

end Panel

namespace Site

open Panel (Adapter Attachment Registry)

/-- A step that leaves alone what is registered under a name: one under another name, on the menus or
on the slugs. -/
inductive Elsewhere (name : String) (s : Site) : Site → Prop
  | registered {p : Panel} {registry : Registry} (hother : p.name ≠ name)
    (h : s.registry.register p = .ok registry) : Elsewhere name s { s with registry }
  | replaced {p : Panel} (hother : p.name ≠ name) :
    Elsewhere name s { s with registry := s.registry.put p }
  | adapted {other : String} {a : Adapter} (hother : other ≠ name) :
    Elsewhere name s { s with registry := s.registry.adapt other a }
  | attached {other : String} {link : Attachment} (hother : other ≠ name) :
    Elsewhere name s { s with registry := s.registry.attach other link }
  | unregistered {other : String} {ctx : Context} {supply : Supply} (hother : other ≠ name) :
    Elsewhere name s (unregister ctx other (supply, s)).2.2
  | menus {menus : Menu.Service} (h : s.menus.Written menus) : Elsewhere name s { s with menus }
  | slugs {slugs : List Reservation} : Elsewhere name s { s with slugs }

structure Untouched (name : String) (s t : Site) : Prop where
  same : s.registry.SameAt t.registry name
  dropsItems : t.registry.dropsItems = s.registry.dropsItems
  menus : s.menus.InMemory → t.menus.InMemory

variable {s t u : Site} {name : String} {ctx : Context}

theorem Untouched.refl (name : String) (s : Site) : Untouched name s s := ⟨.refl _ _, rfl, id⟩

theorem Untouched.trans (hst : Untouched name s t) (htu : Untouched name t u) :
    Untouched name s u :=
  ⟨hst.same.trans htu.same, htu.dropsItems.trans hst.dropsItems, fun h => htu.menus (hst.menus h)⟩

theorem ensures_unregister_inMemory (s : Site) (ctx : Context) (name : String) :
    (unregister ctx name).Ensures s fun _ t => s.menus.InMemory → t.menus.InMemory := by
  refine Ensures.seq (ensures_reads (Ensures.seq (ensures_change ?_)))
  dsimp only
  split
  · split
    · refine Ensures.seq (ensures_onMenus (fun menus h => ensures_pure fun hs => ?_) fun _ _ => id)
      rcases Menu.Service.dropItem_written h with rfl | hwritten
      · exact hs
      · exact hs.tail hwritten
    · exact ensures_pure id
  · exact ensures_pure id

theorem Elsewhere.untouched (h : Elsewhere name s t) : Untouched name s t := by
  cases h with
  | registered hother h =>
    unfold Registry.register at h
    split at h
    · cases h
    · cases h
      exact ⟨Registry.sameAt_put _ hother.symm, rfl, id⟩
  | replaced hother => exact ⟨Registry.sameAt_put _ hother.symm, rfl, id⟩
  | adapted hother => exact ⟨Registry.sameAt_adapt _ _ hother.symm, rfl, id⟩
  | attached hother => exact ⟨Registry.sameAt_attach _ _ hother.symm, rfl, id⟩
  | @unregistered other ctx supply hother =>
    obtain ⟨-, hregistry, -⟩ := ensures_unregister s ctx other supply
    refine ⟨?_, ?_, ensures_unregister_inMemory s ctx other supply⟩
    · rw [hregistry]
      exact Registry.sameAt_erase _ hother.symm
    · rw [hregistry]
      rfl
  | menus h => exact ⟨.refl _ _, rfl, fun hs => hs.tail h⟩
  | slugs => exact ⟨.refl _ _, rfl, id⟩

theorem untouched_of_elsewhere (h : ReflTransGen (Elsewhere name) s t) : Untouched name s t := by
  induction h with
  | refl => exact .refl name s
  | tail _ hstep ih => exact ih.trans hstep.untouched

/-- From `s` to `t` what is registered under a name is removed, with its menu item, and nothing else. -/
structure Unregistered (name : String) (link : Attachment) (s t : Site) : Prop where
  free : t.registry.Free name
  gone : ∀ i ∈ t.menus.itemsAt (Text.key link.menuCode), i.id ≠ link.itemId
  others : ∀ other, other ≠ name → s.registry.SameAt t.registry other
  menus : ∀ code, t.menus.menus.contains code = s.menus.menus.contains code
  items : ∀ code, t.menus.itemsAt code = (s.menus.itemsAt code).filter fun i =>
    !(code == Text.key link.menuCode && i.id == link.itemId)
  slugs : t.slugs = s.slugs

theorem unregistered_detached {link : Attachment}
    (hlink : s.registry.attachments.get? name = some link) :
    Unregistered name link s (s.detached name) := by
  have hmenus : (s.detached name).menus = s.menus.without (Text.key link.menuCode) link.itemId := by
    rw [detached, hlink]
  have hitems : ∀ code, (s.detached name).menus.itemsAt code =
      (s.menus.itemsAt code).filter fun i =>
        !(code == Text.key link.menuCode && i.id == link.itemId) := by
    intro code
    rw [hmenus, Menu.Service.itemsAt_without]
    split
    · rename_i hcode
      simp [hcode, bne]
    · rename_i hcode
      simp [beq_eq_false_iff_ne.2 hcode]
  constructor
  case free => exact Registry.free_erase _ _
  case gone =>
    intro i hi
    rw [hitems] at hi
    simpa using (List.mem_filter.1 hi).2
  case others => exact fun other hother => Registry.sameAt_erase _ hother
  case menus =>
    intro code
    rw [hmenus, Menu.Service.without]
    split
    · rename_i hmenu
      rw [Menu.Service.withItems, Dict.contains, Dict.get?_set]
      split
      · rename_i hcode
        rw [hcode, hmenu]
        rfl
      · rfl
    · rfl
  case items => exact hitems
  case slugs => rfl

theorem unregister_free (h : s.registry.Free name) (ctx : Context) (supply : Supply) :
    unregister ctx name (supply, s) = (.ok false, supply, s) := by
  have hpanel : s.registry.contains name = false := (Dict.contains_eq_false_iff _ _).2 h.panel
  rw [unregister, Call.bind_apply_ok (Call.reads_apply _ _), onRegistry_bind, h.attachment,
    h.erase_eq, hpanel]
  rfl

theorem unregistered_completely {p : Panel} (hmenus : s.menus.InMemory)
    (hdrops : s.registry.dropsItems = true) (hfree : s.registry.contains p.name = false)
    (hactive : ctx.cancelled = false) (a : Adapter) (link : Attachment) :
    ∃ registry, s.registry.register p = .ok registry ∧
      ∀ s', ReflTransGen (Elsewhere p.name)
          { s with registry := (registry.adapt p.name a).attach p.name link } s' →
        ∀ supply, ∃ t, unregister ctx p.name (supply, s') = (.ok true, supply, t) ∧
          Unregistered p.name link s' t ∧
          ∀ u, ReflTransGen (Elsewhere p.name) t u → u.registry.Free p.name ∧
            (∀ ctx query limit services, (u.registry.search ctx query limit).Gives services
              fun hits _ => ∀ h ∈ hits, ∃ other found, other ≠ p.name ∧
                u.registry.adapters.get? other = some found ∧ found.Finds h) ∧
            ∀ ctx supply, unregister ctx p.name (supply, u) = (.ok false, supply, u) := by
  refine ⟨s.registry.put p, ?_, fun s' hs' supply => ?_⟩
  · rw [Registry.register, hfree]
    rfl
  -- what is registered under the name is still there, whatever became of the menu item
  have huntouched := untouched_of_elsewhere hs'
  have hpanel : s'.registry.contains p.name = true := by
    rw [Registry.contains, Dict.contains, huntouched.same.panel]
    exact congrArg Option.isSome (Dict.get?_set_self ..)
  have hlink : s'.registry.attachments.get? p.name = some link :=
    huntouched.same.attachment.trans (Dict.get?_set_self ..)
  have hdrops' : s'.registry.dropsItems = true := huntouched.dropsItems.trans hdrops
  have hunregister := Panel.Factory.unregister_eq supply (huntouched.menus hmenus).orderly hactive
    p.name
  rw [hpanel, hdrops', if_pos rfl] at hunregister
  have hremoved := unregistered_detached hlink
  refine ⟨s'.detached p.name, hunregister, hremoved, fun u hu => ?_⟩
  have hgone : u.registry.Free p.name := hremoved.free.congr (untouched_of_elsewhere hu).same
  refine ⟨hgone, fun ctx query limit services => ?_, unregister_free hgone⟩
  refine (u.registry.search_finds ctx query limit services).imp fun _ _ hfinds hits hhits h hh => ?_
  obtain ⟨other, found, hfound, hhit⟩ := hfinds hits hhits h hh
  refine ⟨other, found, ?_, hfound, hhit⟩
  rintro rfl
  cases hgone.adapter.symm.trans hfound

def shortcut (id : String) : Menu.Item := { Menu.Item.new "admin" id (.url "/") with id }

def stocked : Menu.Service :=
  Menu.Service.empty.withItems (Text.key "admin") [shortcut "pages", shortcut "users"]

theorem inMemory_stocked : stocked.InMemory := by
  refine Menu.Service.inMemory_withItems ?_ ?_ ?_ ?_
  · decide
  · decide
  · unfold Menu.Item.Distinct
    decide
  · unfold Menu.Item.Ordered
    decide

theorem unregistered_completely_pages :
    let s : Site := ⟨.empty true, stocked, []⟩
    let p := Panel.Factory.host "pages"
    (s.menus.itemsAt "admin").map (·.id) = ["pages", "users"] ∧ ∃ registry t,
      s.registry.register p = .ok registry ∧
        unregister .empty "pages" (⟨⟨0, 0⟩, 0⟩, { s with
          registry := (registry.adapt "pages" ⟨p, "title"⟩).attach "pages" ⟨"admin", "pages"⟩ }) =
            (.ok true, ⟨⟨0, 0⟩, 0⟩, t) ∧
        t.registry.Free "pages" ∧ (t.menus.itemsAt "admin").map (·.id) = ["users"] ∧
        unregister .empty "pages" (⟨⟨0, 0⟩, 0⟩, t) = (.ok false, ⟨⟨0, 0⟩, 0⟩, t) := by
  intro s p
  have hcode : Text.key "admin" = "admin" := by decide
  have hitems : (stocked.itemsAt "admin").map (·.id) = ["pages", "users"] := by decide +kernel
  have hleft : ((stocked.itemsAt "admin").filter fun i =>
      !("admin" == "admin" && i.id == "pages")).map (·.id) = ["users"] := by decide
  have hactive : Context.empty.cancelled = false := rfl
  obtain ⟨registry, hregister, hlater⟩ := unregistered_completely (s := s) (p := p)
    inMemory_stocked rfl rfl hactive ⟨p, "title"⟩ ⟨"admin", "pages"⟩
  obtain ⟨t, ht, hremoved, hend⟩ := hlater _ .refl ⟨⟨0, 0⟩, 0⟩
  obtain ⟨hfree, -, hagain⟩ := hend t .refl
  refine ⟨hitems, registry, t, hregister, ht, hfree, ?_, hagain .empty _⟩
  rw [hremoved.items, hcode]
  exact hleft

end Site

end Backoffice

import Backoffice.Proofs.Panel.Creation

namespace Backoffice

def Panel.Dynamic (p : Panel) : Prop := ∃ c, p.source = .content c

def Site.detached (s : Site) (name : String) : Site :=
  { s with
    registry := s.registry.erase name
    menus := match s.registry.attachments.get? name with
      | some a => s.menus.without (Text.key a.menuCode) a.itemId
      | none => s.menus }

theorem Site.orderly_detached {s : Site} (hs : s.menus.Orderly) (name : String) :
    (s.detached name).menus.Orderly := by
  unfold detached
  split
  · exact hs.without _ _
  · exact hs

namespace Panel.Factory

open Call (Ensures Gives ensures_reads ensures_change ensures_pure ensures_throw ensures_ofExcept)
open Menu (Item)

variable {f : Factory} {runtime : Workflow.Runtime} {ctx : Context} {supply : Supply} {s t : Site}
  {c d : ContentType} {p : Panel} {position : Option Int} {name : String} {qs : List Request}
  {i item : Item}

theorem unregister_eq (supply : Supply) (hs : s.menus.Orderly) (hactive : ctx.cancelled = false)
    (name : String) :
    Site.unregister ctx name (supply, s) = (.ok (s.registry.contains name), supply,
      if s.registry.dropsItems then s.detached name
        else { s with registry := s.registry.erase name }) := by
  unfold Site.unregister Site.detached
  rw [Call.bind_apply_ok (Call.reads_apply _ _), Site.onRegistry_bind]
  cases s.registry.attachments.get? name with
  | none =>
    rw [ite_self]
    rfl
  | some a =>
    cases s.registry.dropsItems with
    | false => rfl
    | true =>
      have hdrop := onMenus_dropItem supply
        (s := { s with registry := s.registry.erase name }) hs hactive a.menuCode a.itemId
      exact (Call.bind_apply_ok hdrop _).trans rfl

theorem detach_eq (hmenus : f.hasMenus = true) (hs : s.menus.Orderly)
    (hactive : ctx.cancelled = false) (name : String) :
    f.detach ctx name (supply, s) = (.ok (), supply, s.detached name) := by
  unfold detach
  rw [Call.bind_apply_ok (Call.state_apply _)]
  cases h : s.registry.attachments.get? name with
  | none =>
    have hgone := unregister_eq supply hs hactive name
    have hsite : (if s.registry.dropsItems then s.detached name
        else { s with registry := s.registry.erase name }) = s.detached name := by
      rw [Site.detached, h]
      exact ite_self _
    rw [hsite] at hgone
    exact (Call.bind_apply_ok hgone _).trans rfl
  | some a =>
    have hdrop := onMenus_dropItem supply hs hactive a.menuCode a.itemId
    have hgone := unregister_eq supply
      (s := { s with menus := s.menus.without (Text.key a.menuCode) a.itemId })
      (hs.without _ _) hactive name
    have hsite : (if s.registry.dropsItems then
          Site.detached { s with menus := s.menus.without (Text.key a.menuCode) a.itemId } name
        else { s with
          registry := s.registry.erase name
          menus := s.menus.without (Text.key a.menuCode) a.itemId }) = s.detached name := by
      rw [Site.detached, Site.detached]
      simp only [h, Menu.Service.without_without]
      exact ite_self _
    dsimp only at hgone
    rw [hsite] at hgone
    dsimp only
    rw [if_pos hmenus, Call.bind_apply_ok hdrop]
    exact (Call.bind_apply_ok hgone _).trans rfl

def Asked (qs : List Request) (c : ContentType) : Prop :=
  ∃ q ∈ qs, q.exposes = true ∧ q.subject = c

/-- Panels of one name have one slug, and menu items of one id are those of one panel. -/
structure Unambiguous (f : Factory) (ctx : Context) (qs : List Request) : Prop where
  slug : ∀ c d, Asked qs c → Asked qs d → ownName ctx c = ownName ctx d → c.panelSlug = d.panelSlug
  item : ∀ c d, Asked qs c → Asked qs d →
    f.itemId c c.panelSlug (ownName ctx c) = f.itemId d d.panelSlug (ownName ctx d) →
      ownName ctx c = ownName ctx d

structure Stems (f : Factory) (ctx : Context) (c : ContentType) (i : Item) : Prop where
  id : i.id = f.itemId c c.panelSlug (ownName ctx c)
  target : i.target =
    .panel (f.basePath ++ "/" ++ c.panelSlug) (ownName ctx c) (ownName ctx c)
  parentId : i.parentId = f.parentId

theorem key_panel (path key panelKey : String) :
    (Menu.Target.panel path key panelKey).key = key := rfl

theorem Stems.key (h : f.Stems ctx c i) : i.target.key = ownName ctx c := by
  rw [h.target, key_panel]

def entries (f : Factory) (s : Site) : List Item := s.menus.itemsAt (Text.key f.menuCode)

structure Matched (f : Factory) (ctx : Context) (qs : List Request) (s : Site) : Prop where
  orderly : s.menus.Orderly
  elsewhere : ∀ code i, i ∈ s.menus.itemsAt code → code = Text.key f.menuCode
  stems : ∀ i ∈ f.entries s, ∃ c, Asked qs c ∧ f.Stems ctx c i
  attached : ∀ n a, s.registry.attachments.get? n = some a → a.menuCode = f.menuCode ∧
    (∃ p, s.registry.get? n = some p ∧ p.Dynamic) ∧
      ∃ i ∈ f.entries s, i.id = a.itemId ∧ i.target.key = n
  linked : ∀ n p, s.registry.get? n = some p → p.Dynamic →
    ∃ a, s.registry.attachments.get? n = some a
  owned : ∀ i ∈ f.entries s, protectedKeys.contains i.target.key = false →
    s.registry.attachments.get? i.target.key = some ⟨f.menuCode, i.id⟩

theorem mem_entries_detached (hs : f.Matched ctx qs s) (name : String) :
    i ∈ f.entries (s.detached name) ↔ i ∈ f.entries s ∧
      ∀ a, s.registry.attachments.get? name = some a → i.id ≠ a.itemId := by
  unfold entries Site.detached
  cases h : s.registry.attachments.get? name with
  | none => simp
  | some a =>
    dsimp only
    rw [(hs.attached name a h).1, Menu.Service.itemsAt_without, if_pos rfl, List.mem_filter]
    simp

theorem Matched.detached (hs : f.Matched ctx qs s) (name : String) :
    f.Matched ctx qs (s.detached name) := by
  have hmem {i : Item} := mem_entries_detached (i := i) hs name
  have hgone : ∀ n a, (s.detached name).registry.attachments.get? n = some a →
      n ≠ name ∧ s.registry.attachments.get? n = some a := by
    intro n a h
    rw [Site.detached, Registry.erase, Dict.get?_erase] at h
    split at h
    · cases h
    · exact ⟨by assumption, h⟩
  have hkept : ∀ n, n ≠ name → s.registry.SameAt (s.detached name).registry n :=
    fun n hn => Registry.sameAt_erase _ hn
  constructor
  case orderly => exact Site.orderly_detached hs.orderly name
  case elsewhere =>
    intro code i hi
    refine hs.elsewhere code i ?_
    unfold Site.detached at hi
    dsimp only at hi
    split at hi
    · rw [Menu.Service.itemsAt_without] at hi
      split at hi
      · rename_i hcode
        exact hcode ▸ (List.mem_filter.1 hi).1
      · exact hi
    · exact hi
  case stems => exact fun i hi => hs.stems i (hmem.1 hi).1
  case attached =>
    intro n a' h
    obtain ⟨hn, h⟩ := hgone n a' h
    obtain ⟨hcode, hpanel, i, hi, hid, hkey⟩ := hs.attached n a' h
    refine ⟨hcode, ?_, i, hmem.2 ⟨hi, fun a ha hia => hn ?_⟩, hid, hkey⟩
    · obtain ⟨p, hp, hdynamic⟩ := hpanel
      exact ⟨p, (hkept n hn).panel.trans hp, hdynamic⟩
    · obtain ⟨-, -, j, hj, hja, hjkey⟩ := hs.attached name a ha
      rw [← hkey, ← hjkey, (hs.orderly.distinct _).eq hi hj (hia.trans hja.symm)]
  case linked =>
    intro n p h hp
    have hn : n ≠ name := by
      rintro rfl
      rw [Site.detached, Registry.get?, Registry.erase, Dict.get?_erase_self] at h
      cases h
    obtain ⟨a, ha⟩ := hs.linked n p ((hkept n hn).panel.symm.trans h) hp
    exact ⟨a, (hkept n hn).attachment.trans ha⟩
  case owned =>
    intro i hi hkey
    obtain ⟨hi, hother⟩ := hmem.1 hi
    have howned := hs.owned i hi hkey
    have hn : i.target.key ≠ name := fun heq => hother _ (heq ▸ howned) rfl
    exact (hkept _ hn).attachment.trans howned

theorem Makes.dynamic (h : f.Makes runtime ctx c position s p) : p.Dynamic :=
  ⟨c, buildPanel_source h.built⟩

theorem Makes.stems (h : f.Makes runtime ctx c position s p) :
    f.Stems ctx c (f.menuItem ctx p c c.panelSlug position) where
  id := h.itemId position
  target := by rw [menuItem_target, h.name]
  parentId := menuItem_parentId _ _ _ _ _ _

theorem Stems.placed (h : f.Stems ctx c item) (items : List Item) :
    f.Stems ctx c (placed item items) :=
  ⟨h.id, h.target, h.parentId⟩

theorem get?_registered (f : Factory) (c : ContentType) (p : Panel) (itemId : String) (r : Registry)
    (n : String) : (f.registered c p itemId r).get? n = if n = p.name then some p else r.get? n := by
  unfold registered
  split <;> exact Dict.get?_set _ _ _ _

theorem attachment_registered (hmenus : f.hasMenus = true) (c : ContentType) (p : Panel)
    (itemId : String) (r : Registry) (n : String) :
    (f.registered c p itemId r).attachments.get? n =
      if n = p.name then some ⟨f.menuCode, itemId⟩ else r.attachments.get? n := by
  rw [registered, if_pos hmenus]
  exact Dict.get?_set _ _ _ _

theorem isGroup_panel (path key panelKey : String) :
    (Menu.Target.panel path key panelKey).isGroup = false := by
  have hkind : (Text.key "panel" == "group") = false := by decide
  exact hkind

theorem Stems.isStale_of_key (hi : f.Stems ctx d i) (hitem : f.Stems ctx c item)
    (hid : i.id ≠ item.id) (hkey : protectedKeys.contains i.target.key = false)
    (hname : ownName ctx d = ownName ctx c) (hslug : d.panelSlug = c.panelSlug) :
    isStale item i = true := by
  have hgroup : i.target.isGroup = false := by rw [hi.target, isGroup_panel]
  have hprotected : protectedKeys.contains i.id = false := by rw [hi.id, itemId_not_protected]
  have htarget : i.target = item.target := by rw [hi.target, hitem.target, hname, hslug]
  rw [isStale, hgroup, hprotected, hkey, hi.parentId, hitem.parentId, bne_iff_ne.2 hid, htarget]
  simp

theorem Matched.keeps_of_key_ne (hs : f.Matched ctx qs s) (hqs : Unambiguous f ctx qs)
    (hc : Asked qs c) (hitem : f.Stems ctx c item) (hi : i ∈ f.entries s)
    (hne : i.target.key ≠ ownName ctx c) : keeps item i = true := by
  obtain ⟨d, hd, hstems⟩ := hs.stems i hi
  refine keeps_eq_true_iff.2 ⟨fun hid => hne ?_, Bool.eq_false_iff.2 fun hstale => hne ?_⟩
  · rw [hstems.key]
    exact hqs.item d c hd hc (hstems.id.symm.trans (hid.trans hitem.id))
  · rw [key_of_isStale hstale, hitem.key]

theorem Matched.key_ne_of_keeps (hs : f.Matched ctx qs s) (hqs : Unambiguous f ctx qs)
    (hc : Asked qs c) (hitem : f.Stems ctx c item) (hi : i ∈ f.entries s)
    (hkeeps : keeps item i = true) (hkey : protectedKeys.contains i.target.key = false) :
    i.target.key ≠ ownName ctx c := by
  intro heq
  obtain ⟨hne, hfresh⟩ := keeps_eq_true_iff.1 hkeeps
  obtain ⟨d, hd, hstems⟩ := hs.stems i hi
  have hname : ownName ctx d = ownName ctx c := hstems.key.symm.trans heq
  have hstale := hstems.isStale_of_key hitem hne hkey hname (hqs.slug d c hd hc hname)
  cases hfresh.symm.trans hstale

theorem Matched.made (hmenus : f.hasMenus = true) (hqs : Unambiguous f ctx qs)
    (hs : f.Matched ctx qs s) (hc : Asked qs c) (hp : f.Makes runtime ctx c position s p) :
    f.Matched ctx qs (f.made ctx c position p s) := by
  have hitems : f.entries (f.made ctx c position p s) =
      relink (f.menuItem ctx p c c.panelSlug position) (f.entries s) := itemsAt_made hmenus s
  have hpanel : ∀ n, (f.made ctx c position p s).registry.get? n =
      if n = p.name then some p else s.registry.get? n := get?_registered f c p _ s.registry
  have hattached : ∀ n, (f.made ctx c position p s).registry.attachments.get? n =
      if n = p.name then some ⟨f.menuCode, (f.menuItem ctx p c c.panelSlug position).id⟩
        else s.registry.attachments.get? n := attachment_registered hmenus c p _ s.registry
  have horderly : (f.made ctx c position p s).menus.Orderly :=
    orderly_linkedIn hs.orderly f (f.menuItem ctx p c c.panelSlug position)
  have helsewhere : ∀ code, code ≠ Text.key f.menuCode →
      (f.made ctx c position p s).menus.itemsAt code = s.menus.itemsAt code :=
    fun _ hcode => itemsAt_made_ne hcode s
  have hitem := hp.stems
  have hname := hp.name
  -- nothing else is needed of the item and the site, and neither is to be computed
  generalize f.menuItem ctx p c c.panelSlug position = item at *
  generalize f.made ctx c position p s = t at *
  constructor
  case orderly => exact horderly
  case elsewhere =>
    intro code i hi
    by_cases hcode : code = Text.key f.menuCode
    · exact hcode
    · exact hs.elsewhere code i (helsewhere code hcode ▸ hi)
  case stems =>
    intro i hi
    rw [hitems, mem_relink] at hi
    rcases hi with ⟨hi, -⟩ | rfl
    · exact hs.stems i hi
    · exact ⟨c, hc, hitem.placed _⟩
  case attached =>
    intro n a ha
    rw [hattached] at ha
    rw [hpanel, hitems]
    split at ha
    · rename_i hn
      cases ha
      rw [if_pos hn, hn, hname]
      exact ⟨rfl, ⟨p, rfl, hp.dynamic⟩, placed item (f.entries s), mem_relink.2 (.inr rfl), rfl,
        (hitem.placed _).key⟩
    · rename_i hn
      rw [if_neg hn]
      obtain ⟨hcode, hold, i, hi, hia, hin⟩ := hs.attached n a ha
      have hkeeps := hs.keeps_of_key_ne hqs hc hitem hi (hin.trans_ne (hname ▸ hn))
      exact ⟨hcode, hold, i, mem_relink.2 (.inl ⟨hi, hkeeps⟩), hia, hin⟩
  case linked =>
    intro n p' hn hdynamic
    rw [hpanel] at hn
    rw [hattached]
    split at hn
    · rename_i heq
      rw [if_pos heq]
      exact ⟨_, rfl⟩
    · rename_i hne
      rw [if_neg hne]
      exact hs.linked n p' hn hdynamic
  case owned =>
    intro i hi hkey
    rw [hitems, mem_relink] at hi
    rw [hattached, hname]
    rcases hi with ⟨hi, hkeeps⟩ | rfl
    · rw [if_neg (hs.key_ne_of_keeps hqs hc hitem hi hkeeps hkey)]
      exact hs.owned i hi hkey
    · rw [if_pos (hitem.placed _).key, placed_id]

theorem Matched.withSlug (hs : f.Matched ctx qs s) (environment typeId : String)
    (slug : Option String) : f.Matched ctx qs (s.withSlug environment typeId slug) :=
  ⟨hs.orderly, hs.elsewhere, hs.stems, hs.attached, hs.linked, hs.owned⟩

theorem Asked.mono {qs' : List Request} (h : Asked qs c) (hsub : qs ⊆ qs') : Asked qs' c := by
  obtain ⟨q, hq, hc⟩ := h
  exact ⟨q, hsub hq, hc⟩

theorem Matched.mono {qs' : List Request} (hs : f.Matched ctx qs s) (hsub : qs ⊆ qs') :
    f.Matched ctx qs' s where
  orderly := hs.orderly
  elsewhere := hs.elsewhere
  stems i hi := by
    obtain ⟨c, hc, hstems⟩ := hs.stems i hi
    exact ⟨c, hc.mono hsub, hstems⟩
  attached := hs.attached
  linked := hs.linked
  owned := hs.owned

section

variable (hmenus : f.hasMenus = true) (hactive : ctx.cancelled = false)
include hmenus hactive

theorem gives_detach (hs : f.Matched ctx qs s) (name : String) :
    (f.detach ctx name).Gives s fun _ t => f.Matched ctx qs t := by
  intro supply
  rw [detach_eq hmenus hs.orderly hactive]
  exact fun _ _ => hs.detached name

theorem gives_cleanup (hs : f.Matched ctx qs s) (c : ContentType) (environment : String) :
    (f.cleanup ctx c environment).Gives s fun _ t => f.Matched ctx qs t := by
  refine Ensures.seq (ensures_reads (Ensures.seq (ensures_change ?_)))
  have hreleased := hs.withSlug environment c.id none
  dsimp only
  split
  · exact gives_detach hmenus hactive hreleased _
  · exact ensures_pure fun _ _ => hreleased

theorem gives_leave (hs : f.Matched ctx qs s) (c : ContentType) (environment old : String)
    (exposes : Bool) :
    (f.leave ctx c environment old exposes).Gives s fun _ t => f.Matched ctx qs t := by
  cases exposes with
  | true =>
    refine Ensures.seq (Site.ensures_reserve (fun _ => ?_) fun e _ _ h => by cases h)
    have hreserved := hs.withSlug environment c.id (some c.panelSlug)
    refine Ensures.seq (ensures_reads (Ensures.seq (Ensures.attempt
      ((gives_detach hmenus hactive hreserved _).imp fun r u hu => ?_))))
    cases r with
    | ok _ => exact ensures_pure fun _ _ => hu () rfl
    | error e => exact Ensures.seq (ensures_change (ensures_throw fun _ h => by cases h))
  | false =>
    refine Ensures.seq (ensures_reads (Ensures.seq (Ensures.attempt
      ((gives_detach hmenus hactive hs _).imp fun r u hu => ?_))))
    cases r with
    | ok _ =>
      exact Ensures.seq (ensures_change (ensures_pure fun _ _ => (hu () rfl).withSlug _ _ _))
    | error e => exact ensures_throw fun _ h => by cases h

end

section

variable (hmenus : f.hasMenus = true) (hqs : Unambiguous f ctx qs)
include hmenus hqs

theorem gives_createAt (hs : f.Matched ctx qs s)
    (hc : c.status.exposesPanel = true → Asked qs c) (runtime : Workflow.Runtime)
    (position : Option Int) :
    (f.createAt runtime ctx c position).Gives s fun _ t => f.Matched ctx qs t := by
  cases hexposes : c.status.exposesPanel with
  | true =>
    intro supply a h
    rcases hcall : f.createAt runtime ctx c position (supply, s) with ⟨r, s'⟩
    obtain rfl : r = .ok a := (congrArg Prod.fst hcall).symm.trans h
    obtain ⟨p, hp, -, rfl⟩ := (createAt_eq_ok_iff hs.orderly hexposes).1 hcall
    exact hs.made hmenus hqs (hc hexposes) hp
  | false =>
    refine Ensures.seq (ensures_ofExcept (fun _ hactive => ?_) fun e _ _ h => by cases h)
    have hactive := Context.ensureActive_eq_ok.1 hactive
    have hcleaned : (do
        f.cleanup ctx c (environmentFor ctx c)
        pure none : Call Site (Option Panel)).Gives s fun _ t => f.Matched ctx qs t :=
      Gives.bind (gives_cleanup hmenus hactive hs c _) fun _ _ ht => ensures_pure fun _ _ => ht
    dsimp only
    rw [if_neg (Bool.eq_false_iff.1 hexposes)]
    split
    · exact Ensures.seq (ensures_ofExcept (fun _ _ => hcleaned) fun e _ _ h => by cases h)
    · exact hcleaned

theorem gives_refresh (hs : f.Matched ctx qs s)
    (hc : c.status.exposesPanel = true → Asked qs c) (runtime : Workflow.Runtime) :
    (f.refresh runtime ctx c).Gives s fun _ t => f.Matched ctx qs t := by
  refine Ensures.seq (ensures_ofExcept (fun _ hactive => ?_) fun e _ _ h => by cases h)
  have hactive := Context.ensureActive_eq_ok.1 hactive
  refine Ensures.seq (ensures_reads ?_)
  dsimp only
  split
  · exact gives_createAt hmenus hqs hs hc runtime none
  · refine Gives.bind (gives_leave hmenus hactive hs c _ _ _) fun position t ht => ?_
    refine Ensures.seq (Ensures.attempt
      ((gives_createAt hmenus hqs ht hc runtime position).imp fun r u hu => ?_))
    cases r with
    | ok a => exact ensures_pure fun _ _ => hu a rfl
    | error e =>
      dsimp only
      split
      · exact Ensures.seq (ensures_change (ensures_throw fun _ h => by cases h))
      · exact ensures_throw fun _ h => by cases h

theorem gives_call (hs : f.Matched ctx qs s) {q : Request} (hq : q ∈ qs)
    (runtime : Workflow.Runtime) :
    (q.call f runtime ctx).Gives s fun _ t => f.Matched ctx qs t := by
  have hc : q.exposes = true → Asked qs q.subject := fun h => ⟨q, hq, h, rfl⟩
  cases q with
  | create c =>
    exact Gives.bind (gives_createAt hmenus hqs hs hc runtime none)
      fun _ _ ht => ensures_pure fun _ _ => ht
  | refresh c =>
    exact Gives.bind (gives_refresh hmenus hqs hs hc runtime)
      fun _ _ ht => ensures_pure fun _ _ => ht
  | remove c =>
    refine Ensures.seq (ensures_ofExcept (fun _ hactive => ?_) fun e _ _ h => by cases h)
    exact gives_cleanup hmenus (Context.ensureActive_eq_ok.1 hactive) hs c _

end

/-- Sites that come about from one without menus and panels of content types, by calls of the
factory in one context that all succeed; the latest of them is the first of the list. -/
inductive Upkeep (f : Factory) (ctx : Context) : List Request → Site → Prop
  | start {s : Site} : s.menus = .empty → s.registry.attachments = .empty →
    (∀ n p, s.registry.get? n = some p → ¬p.Dynamic) → Upkeep f ctx [] s
  | call {qs : List Request} {q : Request} {runtime : Workflow.Runtime} {supply supply' : Supply}
    {s t : Site} : Upkeep f ctx qs s →
    q.call f runtime ctx (supply, s) = (.ok (), supply', t) → Upkeep f ctx (q :: qs) t

theorem Unambiguous.tail {q : Request} (h : Unambiguous f ctx (q :: qs)) :
    Unambiguous f ctx qs where
  slug c d hc hd := h.slug c d (hc.mono (List.subset_cons_self q qs))
    (hd.mono (List.subset_cons_self q qs))
  item c d hc hd := h.item c d (hc.mono (List.subset_cons_self q qs))
    (hd.mono (List.subset_cons_self q qs))

theorem Upkeep.matched (hmenus : f.hasMenus = true) (hs : Upkeep f ctx qs s)
    (hqs : Unambiguous f ctx qs) : f.Matched ctx qs s := by
  induction hs with
  | @start s hempty hunattached hhost =>
    have hnone : ∀ code, s.menus.itemsAt code = [] := fun code => by rw [hempty]; rfl
    have hgone : ∀ n, s.registry.attachments.get? n = none := fun n => by rw [hunattached]; rfl
    constructor
    case orderly => exact hempty ▸ Menu.Service.orderly_empty
    case elsewhere => exact fun code i hi => by simp [hnone] at hi
    case stems => exact fun i hi => by simp [entries, hnone] at hi
    case attached => exact fun n a h => by simp [hgone] at h
    case linked => exact fun n p h hp => absurd hp (hhost n p h)
    case owned => exact fun i hi => by simp [entries, hnone] at hi
  | @call qs q runtime supply supply' s t _ hcall ih =>
    have hbefore := (ih hqs.tail).mono (List.subset_cons_self q qs)
    have hafter := gives_call hmenus hqs hbefore List.mem_cons_self runtime supply
    rw [hcall] at hafter
    exact hafter () rfl

theorem Matched.filter_eq (hs : f.Matched ctx qs s) (hi : i ∈ f.entries s)
    (hkey : protectedKeys.contains i.target.key = false) :
    (f.entries s).filter (·.target.key == i.target.key) = [i] := by
  have hsame : ∀ j ∈ f.entries s, (j.target.key == i.target.key) = (j.id == i.id) := by
    intro j hj
    rw [Bool.eq_iff_iff, beq_iff_eq, beq_iff_eq]
    constructor
    · intro hji
      have hj' := hs.owned j hj (hji ▸ hkey)
      rw [hji, hs.owned i hi hkey] at hj'
      exact congrArg (·.itemId) (Option.some.inj hj'.symm)
    · exact fun hid => by rw [(hs.orderly.distinct _).eq hj hi hid]
  rw [List.filter_congr hsame]
  exact (hs.orderly.distinct _).filter_id hi

/-- Panels of content types and the items of the menu match each other. -/
theorem entries_match_panels (hmenus : f.hasMenus = true) (hs : Upkeep f ctx qs s)
    (hqs : Unambiguous f ctx qs) :
    (∀ n p, s.registry.get? n = some p → p.Dynamic →
      (∃ i ∈ f.entries s, i.target.key = n) ∧
        (protectedKeys.contains n = false →
          ∃ i, (f.entries s).filter (·.target.key == n) = [i])) ∧
    ∀ code, ∀ i ∈ s.menus.itemsAt code, code = Text.key f.menuCode ∧
      (protectedKeys.contains i.target.key = true ∨
        ∃ p, s.registry.get? i.target.key = some p ∧ p.Dynamic) := by
  have hmatched := hs.matched hmenus hqs
  constructor
  · intro n p hn hp
    obtain ⟨a, ha⟩ := hmatched.linked n p hn hp
    obtain ⟨-, -, i, hi, -, rfl⟩ := hmatched.attached n a ha
    exact ⟨⟨i, hi, rfl⟩, fun hkey => ⟨i, hmatched.filter_eq hi hkey⟩⟩
  · intro code i hi
    obtain rfl := hmatched.elsewhere code i hi
    refine ⟨rfl, ?_⟩
    cases hkey : protectedKeys.contains i.target.key with
    | true => exact .inl rfl
    | false =>
      obtain ⟨-, hpanel, -⟩ := hmatched.attached _ _ (hmatched.owned i hi hkey)
      exact .inr hpanel

theorem Makes.call_refresh (h : f.Makes runtime ctx c none s p) (hs : s.menus.Orderly)
    (hc : c.status.exposesPanel = true)
    (hslug : s.slug? (environmentFor ctx c) c.id = some c.panelSlug) (supply : Supply) :
    (Request.refresh c).call f runtime ctx (supply, s) =
      (.ok (), supply, f.made ctx c none p s) := by
  have hunmoved : (s.slug? (environmentFor ctx c) c.id).filter (· != c.panelSlug) = none := by
    rw [hslug, Option.filter_some, if_neg (by simp)]
  have hrefresh : f.refresh runtime ctx c (supply, s) =
      (.ok (some p), supply, f.made ctx c none p s) := by
    refine Call.ofExcept_bind_eq_ok.2 ⟨(), Context.ensureActive_eq_ok.2 h.active, ?_⟩
    rw [Call.bind_apply_ok (Call.reads_apply _ _)]
    dsimp only
    rw [hunmoved]
    exact h.createAt_eq hs hc supply
  rw [Request.call, Call.bind_apply_ok hrefresh]
  rfl

theorem exists_renamed {a b : ContentType} (ha : a.status.exposesPanel = true)
    (hb : b.status.exposesPanel = true) (hid : b.id = a.id)
    (henvironment : environmentFor .empty b = environmentFor .empty a)
    (hslug : b.panelSlug = a.panelSlug) (hblank : a.panelSlug ≠ "")
    (hlabela : Text.blank a.label = false) (hlabelb : Text.blank b.label = false)
    (hbuilta : (listed.buildPanel .empty .empty a (environmentFor .empty a) a.panelSlug).isOk = true)
    (hbuiltb : (listed.buildPanel .empty .empty b (environmentFor .empty b) b.panelSlug).isOk =
      true) :
    ∃ p q s, Upkeep listed .empty [.refresh b, .create a] s ∧
      p.name = ownName .empty a ∧ q.name = ownName .empty b ∧
      s.registry.get? q.name = some q ∧ q.Dynamic ∧
      listed.entries s = relink (listed.menuItem .empty q b b.panelSlug none)
        [placed (listed.menuItem .empty p a a.panelSlug none) []] := by
  have hvacant : Attainable listed ⟨.empty false, .empty, []⟩ := .start
  have hstart : Upkeep listed .empty [] ⟨.empty false, .empty, []⟩ :=
    .start rfl rfl fun _ _ h => by cases h
  obtain ⟨p, hp⟩ : ∃ p, listed.Makes .empty .empty a none ⟨.empty false, .empty, []⟩ p :=
    exists_makes hblank rfl hbuilta fun _ _ => takes_of_label _ _ hlabela
  have hs := hvacant.made ha hp
  have hfree : (listed.made .empty a none p ⟨.empty false, .empty, []⟩).isTaken
      (environmentFor .empty b) b.id b.panelSlug = false := by
    rw [hid, henvironment, hslug]
    exact hp.again.free
  obtain ⟨q, hq⟩ : ∃ q, listed.Makes .empty .empty b none
      (listed.made .empty a none p ⟨.empty false, .empty, []⟩) q :=
    exists_makes (hslug.trans_ne hblank) hfree hbuiltb fun _ _ => takes_of_label _ _ hlabelb
  have hrecorded : (listed.made .empty a none p ⟨.empty false, .empty, []⟩).slug?
      (environmentFor .empty b) b.id = some b.panelSlug := by
    rw [hid, henvironment, hslug]
    exact (Site.slug?_withSlug _ _ _ _ _ _).trans (if_pos ⟨rfl, rfl⟩)
  refine ⟨p, q, _, .call (.call hstart (hp.call_create hvacant.orderly ha ⟨⟨0, 0⟩, 0⟩))
    (hq.call_refresh hs.orderly hb hrecorded ⟨⟨0, 0⟩, 0⟩), hp.name, hq.name, ?_, hq.dynamic, ?_⟩
  · exact (get?_registered _ _ _ _ _ _).trans (if_pos rfl)
  · refine (itemsAt_made (f := listed) rfl _).trans (congrArg _ ?_)
    exact (itemsAt_made (f := listed) rfl _).trans (relink_nil _)

theorem unambiguous_pair {a b : ContentType} (hname : ownName ctx a = ownName ctx b)
    (hslug : a.panelSlug = b.panelSlug) :
    Unambiguous f ctx [.refresh b, .create a] := by
  have hasked : ∀ c, Asked [.refresh b, .create a] c → c = b ∨ c = a := by
    rintro c ⟨q, hq, -, rfl⟩
    rcases List.mem_pair.1 hq with rfl | rfl
    · exact .inl rfl
    · exact .inr rfl
  constructor
  case slug =>
    intro c d hc hd _
    rcases hasked c hc with rfl | rfl <;> rcases hasked d hd with rfl | rfl <;> simp [hslug]
  case item =>
    intro c d hc hd _
    rcases hasked c hc with rfl | rfl <;> rcases hasked d hd with rfl | rfl <;> simp [hname]

theorem entries_match_panels_renamed :
    let a := titled "1" "Posts" "posts" []
    let b := titled "1" "Blog" "posts" []
    ∃ s i, Upkeep listed .empty [.refresh b, .create a] s ∧
      Unambiguous listed .empty [.refresh b, .create a] ∧
      (listed.entries s).filter (·.target.key == "posts") = [i] ∧ i.label = "Blog" := by
  intro a b
  obtain ⟨p, q, s, hs, -, hname, hq, hdynamic, hentries⟩ := exists_renamed (a := a) (b := b) rfl rfl
    rfl rfl (by decide +kernel) (by decide +kernel) (by decide +kernel) (by decide)
    (by decide +kernel) (by decide +kernel)
  have hqs : Unambiguous listed .empty [.refresh b, .create a] :=
    unambiguous_pair (by decide +kernel) (by decide +kernel)
  have hposts : q.name = "posts" := hname.trans (by decide +kernel)
  obtain ⟨i, hi⟩ := ((entries_match_panels rfl hs hqs).1 "posts" q (hposts ▸ hq) hdynamic).2
    (by decide +kernel)
  have hplaced : placed (listed.menuItem .empty q b b.panelSlug none)
      [placed (listed.menuItem .empty p a a.panelSlug none) []] ∈
        (listed.entries s).filter (·.target.key == "posts") := by
    refine List.mem_filter.2 ⟨hentries ▸ mem_relink.2 (.inr rfl), ?_⟩
    rw [placed_target, menuItem_key, hposts, beq_self_eq_true]
  rw [hi, List.mem_singleton] at hplaced
  refine ⟨s, i, hs, hqs, hi, ?_⟩
  rw [← hplaced, placed_label, menuItem_label]
  decide +kernel

/-- A menu item with a protected key stays when its panel is renamed. -/
theorem protected_entry_kept :
    let a := titled "1" "Articles" "content" []
    let b := titled "1" "Stories" "content" []
    ∃ s, Upkeep listed .empty [.refresh b, .create a] s ∧
      Unambiguous listed .empty [.refresh b, .create a] ∧
      (∃ p, s.registry.get? "content" = some p ∧ p.Dynamic) ∧
      ¬∃ i, (listed.entries s).filter (·.target.key == "content") = [i] := by
  intro a b
  obtain ⟨p, q, s, hs, hp, hname, hq, hdynamic, hentries⟩ := exists_renamed (a := a) (b := b) rfl
    rfl rfl rfl (by decide +kernel) (by decide +kernel) (by decide +kernel) (by decide +kernel)
    (by decide +kernel) (by decide +kernel)
  have hqs : Unambiguous listed .empty [.refresh b, .create a] :=
    unambiguous_pair (by decide +kernel) (by decide +kernel)
  have hold : p.name = "content" := hp.trans (by decide +kernel)
  have hnew : q.name = "content" := hname.trans (by decide +kernel)
  refine ⟨s, hs, hqs, ⟨q, hnew ▸ hq, hdynamic⟩, ?_⟩
  rintro ⟨i, hi⟩
  have hkept : keeps (listed.menuItem .empty q b b.panelSlug none)
      (placed (listed.menuItem .empty p a a.panelSlug none) []) = true := by
    refine keeps_eq_true_iff.2 ⟨?_, ?_⟩
    · rw [placed_id, menuItem_id, menuItem_id, hold, hnew]
      decide +kernel
    · have hprotected : protectedKeys.contains "content" = true := by decide +kernel
      rw [isStale, placed_target, menuItem_key, hold, hprotected, Bool.not_true, Bool.and_false]
  have hfirst : placed (listed.menuItem .empty p a a.panelSlug none) [] ∈
      (listed.entries s).filter (·.target.key == "content") := by
    refine List.mem_filter.2 ⟨hentries ▸ mem_relink.2 (.inl ⟨List.mem_singleton_self _, hkept⟩), ?_⟩
    rw [placed_target, menuItem_key, hold, beq_self_eq_true]
  have hsecond : placed (listed.menuItem .empty q b b.panelSlug none)
      [placed (listed.menuItem .empty p a a.panelSlug none) []] ∈
        (listed.entries s).filter (·.target.key == "content") := by
    refine List.mem_filter.2 ⟨hentries ▸ mem_relink.2 (.inr rfl), ?_⟩
    rw [placed_target, menuItem_key, hnew, beq_self_eq_true]
  rw [hi, List.mem_singleton] at hfirst hsecond
  have hlabels := congrArg Item.label (hfirst.trans hsecond.symm)
  rw [placed_label, placed_label, menuItem_label, menuItem_label] at hlabels
  exact absurd hlabels (by decide +kernel)

end Panel.Factory

end Backoffice

import Backoffice.Proofs.Menu.InMemory
import Backoffice.Proofs.Panel.Factory

namespace Backoffice.Panel.Factory

open Menu (Item)
open Menu.Item (Distinct Ordered sort sort_congr sort_perm mem_sort)

variable {a b i item : Item} {items items' : List Item}

def keeps (item other : Item) : Bool := other.id != item.id && !isStale item other

def placed (item : Item) (items : List Item) : Item :=
  { item with position := item.position.or (((items.find? (·.id == item.id)).bind (·.position)).or
    ((items.filter (isStale item)).findSome? (·.position))) }

def relink (item : Item) (items : List Item) : List Item :=
  sort (items.filter (keeps item) ++ [placed item items])

@[simp] theorem placed_id (item : Item) (items : List Item) :
    (placed item items).id = item.id := rfl

@[simp] theorem placed_menuCode (item : Item) (items : List Item) :
    (placed item items).menuCode = item.menuCode := rfl

@[simp] theorem placed_label (item : Item) (items : List Item) :
    (placed item items).label = item.label := rfl

@[simp] theorem placed_target (item : Item) (items : List Item) :
    (placed item items).target = item.target := rfl

@[simp] theorem placed_parentId (item : Item) (items : List Item) :
    (placed item items).parentId = item.parentId := rfl

theorem keeps_eq_true_iff :
    keeps item i = true ↔ i.id ≠ item.id ∧ isStale item i = false := by
  simp [keeps]

theorem isStale_eq_false_of_id (h : i.id = item.id) : isStale item i = false := by
  simp [isStale, h]

theorem key_of_isStale (h : isStale item i = true) : i.target.key = item.target.key := by
  simp only [isStale, Bool.and_eq_true, beq_iff_eq] at h
  simp only [h]

theorem keeps_placed (item : Item) (items : List Item) :
    keeps item (placed item items) = false := by
  simp [keeps, placed]

theorem mem_relink :
    i ∈ relink item items ↔ (i ∈ items ∧ keeps item i = true) ∨ i = placed item items := by
  rw [relink, mem_sort, List.mem_append, List.mem_filter, List.mem_singleton]

@[simp] theorem relink_nil (item : Item) : relink item [] = [placed item []] :=
  List.mergeSort_singleton _

theorem ordered_relink (item : Item) (items : List Item) : Ordered (relink item items) :=
  Menu.Item.ordered_sort _

theorem distinct_linked (h : Distinct items) (item : Item) :
    Distinct (items.filter (keeps item) ++ [placed item items]) := by
  refine (h.sublist List.filter_sublist).concat fun i hi => ?_
  exact (keeps_eq_true_iff.1 (List.mem_filter.1 hi).2).1

theorem distinct_relink (h : Distinct items) (item : Item) : Distinct (relink item items) :=
  (distinct_linked h item).perm (sort_perm _).symm

theorem filter_stale (h : Distinct items) (item : Item) :
    items.filter (fun i => (items.filter (isStale item)).all (·.id != i.id)) =
      items.filter (!isStale item ·) := by
  refine List.filter_congr fun i hi => ?_
  rw [Bool.eq_iff_iff, List.all_eq_true, Bool.not_eq_true']
  constructor
  · intro hall
    refine Bool.eq_false_iff.2 fun hstale => ?_
    exact bne_iff_ne.1 (hall i (List.mem_filter.2 ⟨hi, hstale⟩)) rfl
  · intro hfresh j hj
    obtain ⟨hj, hstale⟩ := List.mem_filter.1 hj
    refine bne_iff_ne.2 fun hid => ?_
    rw [h.eq hj hi hid, hfresh] at hstale
    cases hstale

theorem filter_keeps (item : Item) (items : List Item) :
    (items.filter (!isStale item ·)).filter (·.id != item.id) = items.filter (keeps item) :=
  List.filter_filter

theorem placed_congr (h : Ordered items) (h' : Ordered items') (hdistinct : Distinct items)
    (hdistinct' : Distinct items')
    (hsame : ∀ i, keeps item i = false → (i ∈ items ↔ i ∈ items')) :
    placed item items = placed item items' := by
  have hcurrent : items.filter (·.id == item.id) = items'.filter (·.id == item.id) := by
    refine Menu.Item.filter_congr h h' hdistinct hdistinct' fun i hi => hsame i ?_
    simp [keeps, beq_iff_eq.1 hi]
  have hstale : items.filter (isStale item) = items'.filter (isStale item) := by
    refine Menu.Item.filter_congr h h' hdistinct hdistinct' fun i hi => hsame i ?_
    simp [keeps, hi]
  rw [placed, placed, ← List.head?_filter, ← List.head?_filter, hcurrent, hstale]

theorem relink_relink (h : Distinct items) (item : Item) :
    relink item (relink item items) = relink item items := by
  have hkept : (relink item items).filter (keeps item) ++ [placed item items] |>.Perm
      (items.filter (keeps item) ++ [placed item items]) := by
    refine List.Perm.append_right _ (((sort_perm _).filter _).trans ?_)
    rw [List.filter_append, List.filter_filter, List.filter_singleton, keeps_placed]
    simp
  have hcurrent : (relink item items).find? (·.id == item.id) = some (placed item items) :=
    (distinct_relink h item).find? (mem_relink.2 (.inr rfl))
  have hstale : (relink item items).filter (isStale item) = [] := by
    refine List.filter_eq_nil_iff.2 fun i hi hstale => ?_
    rcases mem_relink.1 hi with ⟨-, hkeeps⟩ | rfl
    · exact absurd hstale (Bool.eq_false_iff.1 (keeps_eq_true_iff.1 hkeeps).2)
    · exact absurd hstale (Bool.eq_false_iff.1 (isStale_eq_false_of_id rfl))
  have hplaced : placed item (relink item items) = placed item items := by
    rw [placed, hcurrent, hstale]
    simp only [placed, Option.bind_some, List.findSome?_nil, Option.or_none]
    rw [← Option.or_assoc, Option.or_self]
  rw [relink, hplaced]
  exact sort_congr (((distinct_relink h item).sublist List.filter_sublist).concat
    fun i hi => (keeps_eq_true_iff.1 (List.mem_filter.1 hi).2).1) hkept

/-- What is kept under the id of one item makes way for the other. -/
def Crossed (a b : Item) (items : List Item) : Prop :=
  ∃ i ∈ items, (i.id = a.id ∧ isStale b i = true) ∨ (i.id = b.id ∧ isStale a i = true)

structure Separate (a b : Item) (items : List Item) : Prop where
  id : a.id ≠ b.id
  key : a.target.key ≠ b.target.key
  left : ∀ i ∈ items, i.id = a.id → isStale b i = false
  right : ∀ i ∈ items, i.id = b.id → isStale a i = false

theorem separate_of_not_crossed (hid : a.id ≠ b.id) (hkey : a.target.key ≠ b.target.key)
    (h : ¬Crossed a b items) : Separate a b items where
  id := hid
  key := hkey
  left i hi hia := Bool.eq_false_iff.2 fun hstale => h ⟨i, hi, .inl ⟨hia, hstale⟩⟩
  right i hi hib := Bool.eq_false_iff.2 fun hstale => h ⟨i, hi, .inr ⟨hib, hstale⟩⟩

theorem Separate.symm (h : Separate a b items) : Separate b a items :=
  ⟨h.id.symm, h.key.symm, h.right, h.left⟩

theorem Separate.keeps_placed (h : Separate a b items) (items' : List Item) :
    keeps a (placed b items') = true := by
  refine keeps_eq_true_iff.2 ⟨h.id.symm, Bool.eq_false_iff.2 fun hstale => ?_⟩
  exact h.key (key_of_isStale hstale).symm

theorem Separate.mem_relink_iff (h : Separate a b items) (hi : keeps a i = false) :
    i ∈ items ↔ i ∈ relink b items := by
  rw [mem_relink]
  constructor
  · intro hmem
    refine .inl ⟨hmem, keeps_eq_true_iff.2 ⟨fun hid => ?_, Bool.eq_false_iff.2 fun hstale => ?_⟩⟩
    · have hkept := keeps_eq_true_iff.2 ⟨hid ▸ h.id.symm, h.right i hmem hid⟩
      cases hkept.symm.trans hi
    · have hother : isStale a i = false :=
        Bool.eq_false_iff.2 fun hsa => h.key ((key_of_isStale hsa).symm.trans (key_of_isStale hstale))
      have hid : i.id ≠ a.id := fun hid => by
        rw [h.left i hmem hid] at hstale
        cases hstale
      cases (keeps_eq_true_iff.2 ⟨hid, hother⟩).symm.trans hi
  · rintro (⟨hmem, -⟩ | rfl)
    · exact hmem
    · cases (h.keeps_placed items).symm.trans hi

theorem Separate.placed_relink (h : Separate a b items) (hordered : Ordered items)
    (hdistinct : Distinct items) : placed a (relink b items) = placed a items :=
  (placed_congr hordered (ordered_relink b items) hdistinct (distinct_relink hdistinct b)
    fun _ hi => h.mem_relink_iff hi).symm

theorem Separate.relink_perm (h : Separate a b items) (hordered : Ordered items)
    (hdistinct : Distinct items) : (relink a (relink b items)).Perm
      (items.filter (fun i => keeps a i && keeps b i) ++ [placed b items] ++ [placed a items]) := by
  rw [relink, h.placed_relink hordered hdistinct]
  refine (sort_perm _).trans (List.Perm.append_right _ (((sort_perm _).filter _).trans ?_))
  rw [List.filter_append, List.filter_filter, List.filter_singleton, h.keeps_placed]
  exact .refl _

theorem relink_comm (h : Separate a b items) (hordered : Ordered items)
    (hdistinct : Distinct items) : relink a (relink b items) = relink b (relink a items) := by
  refine (ordered_relink a _).eq_of_perm (ordered_relink b _)
    (distinct_relink (distinct_relink hdistinct b) a) ?_
  refine (h.relink_perm hordered hdistinct).trans (.trans ?_
    (h.symm.relink_perm hordered hdistinct).symm)
  rw [List.append_assoc, List.append_assoc]
  simp only [Bool.and_comm]
  exact List.Perm.append_left _ (List.Perm.swap _ _ _)

section

variable {f : Factory} {ctx : Context} {supply : Supply} {s : Site} {code : String}

def relinked (item : Item) (menus : Menu.Service) : Menu.Service :=
  menus.withItems (Text.key item.menuCode) (relink item (menus.itemsAt (Text.key item.menuCode)))

structure Takes (menus : Menu.Service) (item : Item) : Prop where
  menu : menus.menus.contains (Text.key item.menuCode) = true ∨ Text.key item.menuCode ≠ ""
  label : Text.blank item.label = false ∨
    ∃ i ∈ menus.itemsAt (Text.key item.menuCode), i.id = item.id

theorem orderly_relinked {menus : Menu.Service} (hs : menus.Orderly) (item : Item) :
    (relinked item menus).Orderly :=
  hs.withItems (ordered_relink item _) (distinct_relink (hs.distinct _) item) _

theorem relinked_relinked {menus : Menu.Service} (hs : menus.Orderly) (item : Item) :
    relinked item (relinked item menus) = relinked item menus := by
  simp only [relinked, Menu.Service.itemsAt_withItems_self, Menu.Service.withItems_withItems,
    relink_relink (hs.distinct _)]

theorem takes_relinked (menus : Menu.Service) (item : Item) : Takes (relinked item menus) item where
  menu := .inl (Menu.Service.contains_withItems_self _ _ _)
  label := by
    rw [relinked, Menu.Service.itemsAt_withItems_self]
    exact .inr ⟨placed item _, mem_relink.2 (.inr rfl), rfl⟩

theorem onMenus_eq_ok {g : Menu.Service → Except Fault Menu.Service} {r : Supply × Site} :
    Site.onMenus g (supply, s) = (.ok (), r) ↔
      ∃ menus, g s.menus = .ok menus ∧ r = (supply, { s with menus }) := by
  rw [Site.onMenus, Call.update_apply]
  cases g s.menus with
  | ok menus =>
    constructor
    · rintro ⟨⟩
      exact ⟨menus, rfl, rfl⟩
    · rintro ⟨_, ⟨⟩, rfl⟩
      rfl
  | error e =>
    constructor
    · rintro ⟨⟩
    · rintro ⟨_, ⟨⟩, -⟩

theorem onMenus_dropItem (supply : Supply) (hs : s.menus.Orderly) (hactive : ctx.cancelled = false)
    (code id : String) : Site.onMenus (·.dropItem ctx code id) (supply, s) =
      (.ok (), supply, { s with menus := s.menus.without (Text.key code) id }) :=
  onMenus_eq_ok.2 ⟨_, hs.dropItem hactive code id, rfl⟩

theorem forM_dropItem (hs : s.menus.Orderly) (hactive : ctx.cancelled = false)
    (hmenu : s.menus.menus.contains (Text.key code) = true) (stale : List Item) :
    (stale.forM fun i => Site.onMenus (·.dropItem ctx code i.id)) (supply, s) =
      (.ok (), supply, { s with
        menus := s.menus.withItems (Text.key code)
          ((s.menus.itemsAt (Text.key code)).filter fun i => stale.all (·.id != i.id)) }) := by
  induction stale generalizing s with
  | nil =>
    simp only [List.all_nil, List.filter_true, hs.withItems_itemsAt hmenu]
    rfl
  | cons j stale ih =>
    have hdrop := onMenus_dropItem supply hs hactive code j.id
    have hwithout : s.menus.without (Text.key code) j.id = s.menus.withItems (Text.key code)
        ((s.menus.itemsAt (Text.key code)).filter (·.id != j.id)) := if_pos hmenu
    have horderly := hs.without (Text.key code) j.id
    rw [List.forM_eq_forM, List.forM_cons, Call.bind_apply_ok hdrop]
    rw [hwithout] at horderly ⊢
    refine (ih (s := { s with menus := s.menus.withItems (Text.key code) _ }) horderly
      (Menu.Service.contains_withItems_self _ _ _)).trans ?_
    simp only [Menu.Service.itemsAt_withItems_self, Menu.Service.withItems_withItems,
      List.filter_filter, List.all_cons, Bool.and_comm, bne_comm]

def thinned (item : Item) (menus : Menu.Service) : Menu.Service :=
  menus.withItems (Text.key item.menuCode)
    ((menus.itemsAt (Text.key item.menuCode)).filter (!isStale item ·))

section

variable {menus : Menu.Service}

theorem orderly_thinned (hs : menus.Orderly) (item : Item) : (thinned item menus).Orderly :=
  hs.withItems ((hs.ordered _).sublist List.filter_sublist)
    ((hs.distinct _).sublist List.filter_sublist) _

theorem exists_thinned_iff : (∃ i ∈ (thinned item menus).itemsAt (Text.key item.menuCode),
    i.id = item.id) ↔ ∃ i ∈ menus.itemsAt (Text.key item.menuCode), i.id = item.id := by
  rw [thinned, Menu.Service.itemsAt_withItems_self]
  constructor
  · rintro ⟨i, hi, hid⟩
    exact ⟨i, (List.mem_filter.1 hi).1, hid⟩
  · rintro ⟨i, hi, hid⟩
    exact ⟨i, List.mem_filter.2 ⟨hi, by simp [isStale_eq_false_of_id hid]⟩, hid⟩

theorem thinned_withItems {new : List Item}
    (h : new.Perm (((thinned item menus).itemsAt (Text.key item.menuCode)).filter
      (·.id != item.id) ++ [placed item (menus.itemsAt (Text.key item.menuCode))]))
    (hs : menus.Orderly) :
    (thinned item menus).withItems (Text.key item.menuCode) (sort new) = relinked item menus := by
  rw [thinned, Menu.Service.itemsAt_withItems_self, filter_keeps] at h
  rw [thinned, Menu.Service.withItems_withItems, relinked, relink]
  exact congrArg _ (sort_congr ((distinct_linked (hs.distinct _) item).perm h.symm) h)

theorem updateItem_placed (hs : menus.Orderly) (hactive : ctx.cancelled = false)
    (hthere : ∃ i ∈ menus.itemsAt (Text.key item.menuCode), i.id = item.id) :
    (thinned item menus).updateItem ctx (placed item (menus.itemsAt (Text.key item.menuCode))) =
      .ok (placed item (menus.itemsAt (Text.key item.menuCode)), relinked item menus) := by
  have horderly := orderly_thinned hs item
  have hupdate := horderly.updateItem hactive
    (i := placed item (menus.itemsAt (Text.key item.menuCode)))
    (Menu.Service.contains_withItems_self _ _ _) (exists_thinned_iff.2 hthere)
  have hperm := Menu.Service.replaceFirst_perm (horderly.distinct (Text.key item.menuCode))
    (i := placed item (menus.itemsAt (Text.key item.menuCode))) (exists_thinned_iff.2 hthere)
  rw [hupdate, placed_menuCode, thinned_withItems hperm hs]

theorem addItem_placed (hs : menus.Orderly) (hactive : ctx.cancelled = false)
    (hid : item.id = item.canonicalKey) (hlabel : Text.blank item.label = false)
    (hnew : ¬∃ i ∈ menus.itemsAt (Text.key item.menuCode), i.id = item.id) :
    (thinned item menus).addItem ctx (placed item (menus.itemsAt (Text.key item.menuCode))) =
      .ok (placed item (menus.itemsAt (Text.key item.menuCode)), relinked item menus) := by
  have hfresh : ∀ i ∈ (thinned item menus).itemsAt (Text.key item.menuCode), i.id ≠ item.id :=
    fun i hi heq => hnew (exists_thinned_iff.1 ⟨i, hi, heq⟩)
  have hadd := (orderly_thinned hs item).addItem hactive
    (i := placed item (menus.itemsAt (Text.key item.menuCode)))
    (Menu.Service.contains_withItems_self _ _ _) (withId_of_canonical hid _) hlabel hfresh
  have hothers : ((thinned item menus).itemsAt (Text.key item.menuCode)).filter
      (·.id != item.id) = (thinned item menus).itemsAt (Text.key item.menuCode) :=
    List.filter_eq_self.2 fun i hi => bne_iff_ne.2 (hfresh i hi)
  rw [hadd, placed_menuCode, thinned_withItems (by rw [hothers]) hs]

def writing (g : Menu.Service → Except Fault (Item × Menu.Service)) : Call Site Item :=
  Call.atomic fun s => do
    let (i, menus) ← g s.menus
    .ok (i, { s with menus })

def lodge (ctx : Context) (current : Option Item) (item : Item) : Call Site String := do
  let stored ← match current with
    | some _ => writing (·.updateItem ctx item)
    | none => do
      match ← Call.attempt (writing (·.addItem ctx item)) with
      | .ok i => pure i
      | .error e => if e.isAlreadyExists then writing (·.updateItem ctx item) else throw e
  pure stored.id

theorem linkMenu_eq (f : Factory) (ctx : Context) (p : Panel) (c : ContentType) (slug : String)
    (position : Option Int) : f.linkMenu ctx p c slug position = (do
      Site.onMenus (·.ensureMenu ctx f.menuCode)
      let existing ← Call.asks fun s => s.menus.listItems ctx f.menuCode
      (existing.filter (isStale (f.menuItem ctx p c slug position))).forM fun i =>
        Site.onMenus (·.dropItem ctx f.menuCode i.id)
      lodge ctx (existing.find? (·.id == (f.menuItem ctx p c slug position).id))
        (placed (f.menuItem ctx p c slug position) existing)) := rfl

section

variable {menus : Menu.Service}

theorem writing_ok {g : Menu.Service → Except Fault (Item × Menu.Service)}
    (h : g s.menus = .ok (i, menus)) :
    writing g (supply, s) = (.ok i, supply, { s with menus }) := by
  rw [writing, Call.atomic_apply, h]
  rfl

theorem lodge_some (h : s.menus.updateItem ctx i = .ok (i, menus)) (current : Item) :
    lodge ctx (some current) i (supply, s) = (.ok i.id, supply, { s with menus }) :=
  Call.bind_apply_ok (writing_ok (g := (·.updateItem ctx i)) h) _

theorem lodge_none (h : s.menus.addItem ctx i = .ok (i, menus)) :
    lodge ctx none i (supply, s) = (.ok i.id, supply, { s with menus }) := by
  have hadded : (writing (·.addItem ctx i)).attempt (supply, s) =
      (.ok (.ok i), supply, { s with menus }) := by
    rw [Call.attempt, writing_ok (g := (·.addItem ctx i)) h]
  exact Call.bind_apply_ok hadded _

theorem lodge_refused {e : Fault} (h : s.menus.addItem ctx i = .error e)
    (he : e.isAlreadyExists = false) : lodge ctx none i (supply, s) = (.error e, supply, s) := by
  have hrefused : (writing (·.addItem ctx i)).attempt (supply, s) = (.ok (.error e), supply, s) := by
    rw [Call.attempt, writing, Call.atomic_apply, h]
    rfl
  refine (Call.bind_apply_ok hrefused _).trans ?_
  simp only [he, Bool.false_eq_true, if_false]
  rfl

end

theorem lodge_blank {menus : Menu.Service} (hs : menus.Orderly) (hactive : ctx.cancelled = false)
    (hlabel : Text.blank item.label = true)
    (hnew : ¬∃ i ∈ menus.itemsAt (Text.key item.menuCode), i.id = item.id) (supply : Supply)
    (s : Site) : lodge ctx ((menus.itemsAt (Text.key item.menuCode)).find? (·.id == item.id))
      (placed item (menus.itemsAt (Text.key item.menuCode)))
      (supply, { s with menus := thinned item menus }) =
        (.error (.invalid "label" "menu item label is required"), supply,
          { s with menus := thinned item menus }) := by
  rw [Menu.Item.find?_eq_none_iff.2 hnew]
  exact lodge_refused (s := { s with menus := thinned item menus }) (i := placed item _)
    ((orderly_thinned hs item).addItem_blank hactive hlabel) rfl

theorem lodge_eq_ok_iff {menus : Menu.Service} (hs : menus.Orderly)
    (hactive : ctx.cancelled = false) (hid : item.id = item.canonicalKey) (supply : Supply)
    (s : Site) (r : Supply × Site) (id : String) :
    lodge ctx ((menus.itemsAt (Text.key item.menuCode)).find? (·.id == item.id))
      (placed item (menus.itemsAt (Text.key item.menuCode)))
      (supply, { s with menus := thinned item menus }) = (.ok id, r) ↔
      (Text.blank item.label = false ∨
        ∃ i ∈ menus.itemsAt (Text.key item.menuCode), i.id = item.id) ∧
      id = item.id ∧ r = (supply, { s with menus := relinked item menus }) := by
  cases hcurrent : (menus.itemsAt (Text.key item.menuCode)).find? (·.id == item.id) with
  | some current =>
    have hid := List.find?_some hcurrent
    have hthere : ∃ i ∈ menus.itemsAt (Text.key item.menuCode), i.id = item.id :=
      ⟨current, List.mem_of_find?_eq_some hcurrent, beq_iff_eq.1 hid⟩
    rw [lodge_some (s := { s with menus := thinned item menus })
      (updateItem_placed hs hactive hthere) current]
    constructor
    · rintro ⟨⟩
      exact ⟨.inr hthere, rfl, rfl⟩
    · rintro ⟨-, rfl, rfl⟩
      rfl
  | none =>
    have hnew := Menu.Item.find?_eq_none_iff.1 hcurrent
    cases hlabel : Text.blank item.label with
    | false =>
      rw [lodge_none (s := { s with menus := thinned item menus })
        (addItem_placed hs hactive hid hlabel hnew)]
      constructor
      · rintro ⟨⟩
        exact ⟨.inl rfl, rfl, rfl⟩
      · rintro ⟨-, rfl, rfl⟩
        rfl
    | true =>
      rw [← hcurrent, lodge_blank hs hactive hlabel hnew]
      constructor
      · rintro ⟨⟩
      · rintro ⟨hblank | hthere, -⟩
        · cases hblank
        · exact absurd hthere hnew

@[simp] theorem menuItem_menuCode (f : Factory) (ctx : Context) (p : Panel) (c : ContentType)
    (slug : String) (position : Option Int) :
    (f.menuItem ctx p c slug position).menuCode = f.menuCode := rfl

@[simp] theorem menuItem_key (f : Factory) (ctx : Context) (p : Panel) (c : ContentType)
    (slug : String) (position : Option Int) :
    (f.menuItem ctx p c slug position).target.key = p.name := rfl

@[simp] theorem menuItem_label (f : Factory) (ctx : Context) (p : Panel) (c : ContentType)
    (slug : String) (position : Option Int) :
    (f.menuItem ctx p c slug position).label = c.label := rfl

theorem menuItem_target (f : Factory) (ctx : Context) (p : Panel) (c : ContentType) (slug : String)
    (position : Option Int) : (f.menuItem ctx p c slug position).target =
      .panel (f.basePath ++ "/" ++ slug) p.name p.name := rfl

theorem menuItem_parentId (f : Factory) (ctx : Context) (p : Panel) (c : ContentType)
    (slug : String) (position : Option Int) :
    (f.menuItem ctx p c slug position).parentId = f.parentId := rfl

theorem menuItem_id (f : Factory) (ctx : Context) (p : Panel) (c : ContentType) (slug : String)
    (position : Option Int) : (f.menuItem ctx p c slug position).id = f.itemId c slug p.name := rfl

theorem itemId_not_protected (f : Factory) (c : ContentType)
    (slug name : String) : protectedKeys.contains (f.itemId c slug name) = false := by
  refine Bool.eq_false_iff.2 fun h => ?_
  have heq := List.mem_singleton.1 (List.contains_iff_mem.1 h)
  have hlength := Menu.length_canonicalKey f.menuCode c.label
    (.panel (f.basePath ++ "/" ++ slug) name name) f.parentId
  rw [← itemId, heq] at hlength
  cases hlength

section

variable {p : Panel} {c : ContentType} {slug : String} {position : Option Int}

theorem linkMenu_lodges (supply : Supply) (hs : s.menus.Orderly) (hactive : ctx.cancelled = false)
    (hmenu : s.menus.menus.contains (Text.key f.menuCode) = true ∨ Text.key f.menuCode ≠ "") :
    f.linkMenu ctx p c slug position (supply, s) =
      lodge ctx ((s.menus.itemsAt (Text.key f.menuCode)).find?
          (·.id == (f.menuItem ctx p c slug position).id))
        (placed (f.menuItem ctx p c slug position) (s.menus.itemsAt (Text.key f.menuCode)))
        (supply, { s with menus := thinned (f.menuItem ctx p c slug position) s.menus }) := by
  rw [linkMenu_eq]
  rw [← f.menuItem_menuCode ctx p c slug position] at hmenu ⊢
  generalize f.menuItem ctx p c slug position = item at hmenu ⊢
  generalize hensured : s.menus.withItems (Text.key item.menuCode)
    (s.menus.itemsAt (Text.key item.menuCode)) = ensured
  have hthere : ensured.menus.contains (Text.key item.menuCode) = true := by
    rw [← hensured, Menu.Service.contains_withItems_self]
  have hitems : ensured.itemsAt (Text.key item.menuCode) =
      s.menus.itemsAt (Text.key item.menuCode) := by
    rw [← hensured, Menu.Service.itemsAt_withItems_self]
  have horderly : ensured.Orderly :=
    hensured ▸ hs.withItems (hs.ordered _) (hs.distinct _) _
  have hmade : Site.onMenus (·.ensureMenu ctx item.menuCode) (supply, s) =
      (.ok (), supply, { s with menus := ensured }) :=
    onMenus_eq_ok.2 ⟨_, (hs.ensureMenu_eq_ok_iff hactive).2 ⟨hmenu, hensured.symm⟩, rfl⟩
  have hlisted : (Call.asks fun s : Site => s.menus.listItems ctx item.menuCode)
      (supply, { s with menus := ensured }) =
      (.ok (ensured.itemsAt (Text.key item.menuCode)), supply, { s with menus := ensured }) := by
    rw [Call.asks_apply, horderly.listItems hactive hthere]
  have hthinned : (((ensured.itemsAt (Text.key item.menuCode)).filter (isStale item)).forM
      fun i => Site.onMenus (·.dropItem ctx item.menuCode i.id))
      (supply, { s with menus := ensured }) =
      (.ok (), supply, { s with menus := thinned item s.menus }) := by
    rw [forM_dropItem (s := { s with menus := ensured }) horderly hactive hthere,
      filter_stale (horderly.distinct _), hitems, ← hensured, Menu.Service.withItems_withItems]
    rfl
  rw [Call.bind_apply_ok hmade, Call.bind_apply_ok hlisted, Call.bind_apply_ok hthinned, hitems]

theorem linkMenu_unmade (supply : Supply) (hs : s.menus.Orderly) (hactive : ctx.cancelled = false)
    (hmenu : s.menus.menus.contains (Text.key f.menuCode) = false)
    (hcode : Text.key f.menuCode = "") : f.linkMenu ctx p c slug position (supply, s) =
      (.error (.invalid "code" "menu code is required"), supply, s) := by
  have hcreate := hs.createMenu hactive hmenu
  rw [if_pos hcode] at hcreate
  have hensure : s.menus.ensureMenu ctx f.menuCode =
      .error (.invalid "code" "menu code is required") := by
    rw [Menu.Service.ensureMenu, hs.getMenu hactive, Menu.Service.find_of_not_contains hmenu,
      hcreate]
    rfl
  have hrefused : Site.onMenus (·.ensureMenu ctx f.menuCode) (supply, s) =
      (.error (.invalid "code" "menu code is required"), supply, s) := by
    rw [Site.onMenus, Call.update_apply, hensure]
    rfl
  rw [linkMenu_eq]
  exact Call.bind_apply_error hrefused _

theorem linkMenu_eq_ok_iff {id : String} {r : Supply × Site} (hs : s.menus.Orderly)
    (hactive : ctx.cancelled = false) :
    f.linkMenu ctx p c slug position (supply, s) = (.ok id, r) ↔
      Takes s.menus (f.menuItem ctx p c slug position) ∧
        id = (f.menuItem ctx p c slug position).id ∧
        r = (supply, { s with menus := relinked (f.menuItem ctx p c slug position) s.menus }) := by
  have hid : (f.menuItem ctx p c slug position).id =
    (f.menuItem ctx p c slug position).canonicalKey := rfl
  by_cases hmenu : s.menus.menus.contains (Text.key f.menuCode) = true ∨ Text.key f.menuCode ≠ ""
  · have hlodged := lodge_eq_ok_iff hs hactive hid supply s r id
    rw [menuItem_menuCode] at hlodged
    rw [linkMenu_lodges supply hs hactive hmenu, hlodged]
    exact and_congr_left' ⟨fun hlabel => ⟨hmenu, hlabel⟩, Takes.label⟩
  · obtain ⟨hnone, hcode⟩ := not_or.1 hmenu
    rw [linkMenu_unmade supply hs hactive (Bool.eq_false_iff.2 hnone) (not_not.1 hcode)]
    constructor
    · rintro ⟨⟩
    · rintro ⟨htakes, -⟩
      exact absurd htakes.menu hmenu

end

end

end

end Backoffice.Panel.Factory


import Backoffice.Proofs.Menu
import Backoffice.Proofs.Menu.Order
import Mathlib.Data.List.Induction
import Mathlib.Logic.Relation

namespace Backoffice.Menu.Service

structure Orderly (s : Service) : Prop where
  up : s.outages = .empty
  code : ∀ code m, s.menus.get? code = some m → m.code = code
  ordered : ∀ code, Item.Ordered (s.itemsAt code)
  distinct : ∀ code, Item.Distinct (s.itemsAt code)

def withItems (s : Service) (code : String) (items : List Item) : Service :=
  { s with menus := s.menus.set code ⟨code, items⟩ }

variable {s t : Service} {ctx : Context} {code id : String} {m : Menu} {i j : Item}
  {items items' : List Item}

@[simp] theorem contains_withItems_self (s : Service) (code : String) (items : List Item) :
    (s.withItems code items).menus.contains code = true := by
  simp [withItems, Dict.contains]

@[simp] theorem withItems_withItems (s : Service) (code : String) (items items' : List Item) :
    (s.withItems code items).withItems code items' = s.withItems code items' := by
  simp [withItems]

theorem itemsAt_withItems (s : Service) (code : String) (items : List Item) (code' : String) :
    (s.withItems code items).itemsAt code' = if code' = code then items else s.itemsAt code' := by
  rw [itemsAt, withItems, Dict.get?_set]
  split <;> rfl

@[simp] theorem itemsAt_withItems_self (s : Service) (code : String) (items : List Item) :
    (s.withItems code items).itemsAt code = items := by
  rw [itemsAt_withItems, if_pos rfl]

theorem itemsAt_of_not_contains (h : s.menus.contains code = false) : s.itemsAt code = [] := by
  rw [itemsAt, (Dict.contains_eq_false_iff _ _).1 h]
  rfl

theorem contains_of_mem (hi : i ∈ s.itemsAt code) : s.menus.contains code = true := by
  by_contra hnone
  rw [itemsAt_of_not_contains (Bool.eq_false_iff.2 hnone)] at hi
  cases hi

theorem orderly_empty : empty.Orderly where
  up := rfl
  code _ _ h := by cases h
  ordered _ := .nil
  distinct _ := .nil

namespace Orderly

theorem get? (hs : s.Orderly) (h : s.menus.contains code = true) :
    s.menus.get? code = some ⟨code, s.itemsAt code⟩ := by
  obtain ⟨m, hm⟩ := Option.isSome_iff_exists.1 h
  rw [itemsAt, hm, Option.map_some, Option.getD_some, ← hs.code code m hm]

theorem withItems_itemsAt (hs : s.Orderly) (h : s.menus.contains code = true) :
    s.withItems code (s.itemsAt code) = s := by
  rw [withItems, Dict.set_get? (hs.get? h)]

theorem withItems (hs : s.Orderly) (hordered : Item.Ordered items)
    (hdistinct : Item.Distinct items) (code : String) : (s.withItems code items).Orderly where
  up := hs.up
  code code' m h := by
    rw [Service.withItems, Dict.get?_set] at h
    split at h
    · rename_i hcode
      cases h
      exact hcode.symm
    · exact hs.code code' m h
  ordered code' := by
    rw [itemsAt_withItems]
    split
    · exact hordered
    · exact hs.ordered code'
  distinct code' := by
    rw [itemsAt_withItems]
    split
    · exact hdistinct
    · exact hs.distinct code'

theorem allow (hs : s.Orderly) (ctx : Context) (method : Method) :
    s.allow ctx method = ctx.ensureActive := by
  rw [Service.allow, hs.up]
  rfl

theorem allow_of_active (hs : s.Orderly) (hactive : ctx.cancelled = false) (method : Method) :
    s.allow ctx method = .ok () := by
  rw [hs.allow, Context.ensureActive_eq_ok.2 hactive]

theorem find_of_contains (hs : s.Orderly) (h : s.menus.contains (Text.key code) = true) :
    s.find code = .ok ⟨Text.key code, s.itemsAt (Text.key code)⟩ := by
  rw [find, hs.get? h]

end Orderly

theorem find_of_not_contains (h : s.menus.contains (Text.key code) = false) :
    s.find code = .error (.notFound "menu" code) := by
  rw [find, (Dict.contains_eq_false_iff _ _).1 h]

theorem isNone_item?_iff : (m.item? id).isNone = true ↔ ∀ i ∈ m.items, i.id ≠ id := by
  simp [item?]

theorem not_isSome_item?_iff : ¬(m.item? id).isSome = true ↔ ∀ i ∈ m.items, i.id ≠ id := by
  simp [item?]

theorem not_isNone_item?_iff : ¬(m.item? id).isNone = true ↔ ∃ i ∈ m.items, i.id = id := by
  simp [item?]

def without (s : Service) (code id : String) : Service :=
  if s.menus.contains code then s.withItems code ((s.itemsAt code).filter (·.id != id)) else s

theorem itemsAt_without (s : Service) (code id code' : String) :
    (s.without code id).itemsAt code' =
      if code' = code then (s.itemsAt code).filter (·.id != id) else s.itemsAt code' := by
  unfold without
  split
  · rw [itemsAt_withItems]
  · rename_i h
    have hnone := itemsAt_of_not_contains (Bool.eq_false_iff.2 h)
    split
    · rename_i hcode
      rw [hcode, hnone]
      rfl
    · rfl

theorem Orderly.without (hs : s.Orderly) (code id : String) : (s.without code id).Orderly := by
  unfold Service.without
  split
  · exact hs.withItems ((hs.ordered code).sublist List.filter_sublist)
      ((hs.distinct code).sublist List.filter_sublist) code
  · exact hs

@[simp] theorem without_without (s : Service) (code id : String) :
    (s.without code id).without code id = s.without code id := by
  unfold without
  by_cases h : s.menus.contains code = true
  · simp [h]
  · simp [h]

namespace Orderly

theorem dropItem (hs : s.Orderly) (hactive : ctx.cancelled = false) (code id : String) :
    s.dropItem ctx code id = .ok (s.without (Text.key code) id) := by
  rw [Service.dropItem, deleteItem, hs.allow_of_active hactive, Service.without]
  cases hmenu : s.menus.contains (Text.key code) with
  | false =>
    rw [find_of_not_contains hmenu]
    rfl
  | true =>
    rw [hs.find_of_contains hmenu, if_pos rfl]
    by_cases hitem : ∀ i ∈ s.itemsAt (Text.key code), i.id ≠ id
    · have hnone : (s.itemsAt (Text.key code)).filter (·.id != id) = s.itemsAt (Text.key code) :=
        List.filter_eq_self.2 fun i hi => bne_iff_ne.2 (hitem i hi)
      have hmissing := isNone_item?_iff (m := ⟨Text.key code, s.itemsAt (Text.key code)⟩).2 hitem
      simp only [bind, Except.bind, hmissing, if_true, hnone, hs.withItems_itemsAt hmenu]
      rfl
    · have hfound : ¬((⟨Text.key code, s.itemsAt (Text.key code)⟩ : Menu).item? id).isNone = true :=
        mt isNone_item?_iff.1 hitem
      simp only [bind, Except.bind, hfound]
      rfl

theorem getMenu (hs : s.Orderly) (hactive : ctx.cancelled = false) (code : String) :
    s.getMenu ctx code = s.find code := by
  rw [Service.getMenu, hs.allow_of_active hactive]
  rfl

theorem listItems (hs : s.Orderly) (hactive : ctx.cancelled = false)
    (hmenu : s.menus.contains (Text.key code) = true) :
    s.listItems ctx code = .ok (s.itemsAt (Text.key code)) := by
  rw [Service.listItems, hs.allow_of_active hactive, hs.find_of_contains hmenu]
  rfl

theorem createMenu (hs : s.Orderly) (hactive : ctx.cancelled = false)
    (hmenu : s.menus.contains (Text.key code) = false) :
    s.createMenu ctx code =
      if Text.key code = "" then .error (.invalid "code" "menu code is required")
      else .ok (⟨Text.key code, []⟩, s.withItems (Text.key code) []) := by
  rw [Service.createMenu, hs.allow_of_active hactive]
  dsimp only
  generalize Text.key code = key at hmenu ⊢
  rw [hmenu]
  by_cases hempty : key = ""
  · rw [if_pos hempty, if_pos (beq_iff_eq.2 hempty)]
    rfl
  · rw [if_neg hempty, if_neg (mt beq_iff_eq.1 hempty)]
    rfl

theorem ensureMenu_eq_ok_iff (hs : s.Orderly) (hactive : ctx.cancelled = false) :
    s.ensureMenu ctx code = .ok t ↔
      (s.menus.contains (Text.key code) = true ∨ Text.key code ≠ "") ∧
        t = s.withItems (Text.key code) (s.itemsAt (Text.key code)) := by
  rw [Service.ensureMenu, hs.getMenu hactive]
  cases hmenu : s.menus.contains (Text.key code) with
  | true =>
    rw [hs.find_of_contains hmenu, hs.withItems_itemsAt hmenu]
    exact ⟨fun h => ⟨.inl rfl, (Except.ok.inj h).symm⟩, fun h => congrArg _ h.2.symm⟩
  | false =>
    rw [find_of_not_contains hmenu, itemsAt_of_not_contains hmenu, hs.createMenu hactive hmenu]
    generalize Text.key code = key
    by_cases hempty : key = ""
    · rw [if_pos hempty]
      constructor
      · rintro ⟨⟩
      · rintro ⟨h | hcode, -⟩
        · cases h
        · exact absurd hempty hcode
    · rw [if_neg hempty]
      exact ⟨fun h => ⟨.inr hempty, (Except.ok.inj h).symm⟩, fun h => congrArg _ h.2.symm⟩

theorem addItem (hs : s.Orderly) (hactive : ctx.cancelled = false)
    (hmenu : s.menus.contains (Text.key i.menuCode) = true) (hid : i.withId = i)
    (hlabel : Text.blank i.label = false)
    (hnew : ∀ j ∈ s.itemsAt (Text.key i.menuCode), j.id ≠ i.id) :
    s.addItem ctx i = .ok (i, s.withItems (Text.key i.menuCode)
      (Item.sort (s.itemsAt (Text.key i.menuCode) ++ [i]))) := by
  rw [Service.addItem, hs.allow_of_active hactive, hid]
  refine bind_eq_ok.2 ⟨(), rfl, refuse_eq_ok.2 ⟨Bool.eq_false_iff.1 hlabel, ?_⟩⟩
  refine bind_eq_ok.2 ⟨_, hs.find_of_contains hmenu, refuse_eq_ok.2 ⟨?_, rfl⟩⟩
  exact not_isSome_item?_iff.2 hnew

theorem addItem_blank (hs : s.Orderly) (hactive : ctx.cancelled = false)
    (hlabel : Text.blank i.label = true) :
    s.addItem ctx i = .error (.invalid "label" "menu item label is required") := by
  rw [Service.addItem, hs.allow_of_active hactive]
  exact bind_eq_error.2 (.inr ⟨(), rfl, refuse_eq_error.2 (.inl ⟨hlabel, rfl⟩)⟩)

theorem updateItem (hs : s.Orderly) (hactive : ctx.cancelled = false)
    (hmenu : s.menus.contains (Text.key i.menuCode) = true)
    (hthere : ∃ j ∈ s.itemsAt (Text.key i.menuCode), j.id = i.id) :
    s.updateItem ctx i = .ok (i, s.withItems (Text.key i.menuCode)
      (Item.sort (replaceFirst i (s.itemsAt (Text.key i.menuCode))))) := by
  rw [Service.updateItem, hs.allow_of_active hactive]
  refine bind_eq_ok.2 ⟨(), rfl, bind_eq_ok.2 ⟨_, hs.find_of_contains hmenu, ?_⟩⟩
  exact refuse_eq_ok.2 ⟨not_isNone_item?_iff.2 hthere, rfl⟩

end Orderly

theorem map_id_replaceFirst (i : Item) (items : List Item) :
    (replaceFirst i items).map (·.id) = items.map (·.id) := by
  induction items with
  | nil => rfl
  | cons j rest ih =>
    rw [replaceFirst]
    split
    · rename_i h
      simp [beq_iff_eq.1 h]
    · simp [ih]

theorem replaceFirst_perm (h : Item.Distinct items) (hi : ∃ j ∈ items, j.id = i.id) :
    (replaceFirst i items).Perm (items.filter (·.id != i.id) ++ [i]) := by
  induction items with
  | nil => simp at hi
  | cons j rest ih =>
    obtain ⟨hj, hrest⟩ := List.nodup_cons.1 h
    rw [replaceFirst]
    split
    · rename_i hid
      have hothers : rest.filter (·.id != i.id) = rest := by
        refine List.filter_eq_self.2 fun k hk => bne_iff_ne.2 fun hki => hj ?_
        exact List.mem_map.2 ⟨k, hk, hki.trans (beq_iff_eq.1 hid).symm⟩
      rw [List.filter_cons_of_neg (by simpa using hid), hothers]
      exact (List.perm_append_singleton i rest).symm
    · rename_i hid
      have hne : j.id ≠ i.id := mt beq_iff_eq.2 hid
      rw [List.filter_cons_of_pos (by simpa using hne), List.cons_append]
      refine (ih hrest ?_).cons j
      obtain ⟨k, hk, hki⟩ := hi
      rcases List.mem_cons.1 hk with rfl | hk
      · exact absurd hki hne
      · exact ⟨k, hk, hki⟩

theorem distinct_replaceFirst (h : Item.Distinct items) (i : Item) :
    Item.Distinct (replaceFirst i items) := by
  rw [Item.Distinct, map_id_replaceFirst]
  exact h

inductive Written (s t : Service) : Prop
  | created {ctx : Context} {code : String} {m : Menu} :
    s.createMenu ctx code = .ok (m, t) → Written s t
  | added {ctx : Context} {i j : Item} : s.addItem ctx i = .ok (j, t) → Written s t
  | updated {ctx : Context} {i j : Item} : s.updateItem ctx i = .ok (j, t) → Written s t
  | deleted {ctx : Context} {code id : String} : s.deleteItem ctx code id = .ok t → Written s t

theorem itemsAt_of_find (hs : s.Orderly) (h : s.find code = .ok m) :
    m = ⟨Text.key code, s.itemsAt (Text.key code)⟩ := by
  have hitems := itemsAt_eq_of_find h
  unfold find at h
  split at h
  · rename_i hm
    cases h
    rw [hitems, ← hs.code _ m hm]
  · cases h

theorem Orderly.store (hs : s.Orderly) (h : s.find code = .ok m) (hitems : Item.Distinct items) :
    (s.store code m items).Orderly := by
  rw [Service.store, itemsAt_of_find hs h]
  exact hs.withItems (Item.ordered_sort items) (hitems.perm (Item.sort_perm items).symm) _

theorem Written.orderly (h : s.Written t) (hs : s.Orderly) : t.Orderly := by
  cases h with
  | created h =>
    obtain ⟨_, -, h⟩ := bind_eq_ok.1 h
    dsimp only at h
    generalize Text.key _ = key at h
    obtain ⟨-, h⟩ := refuse_eq_ok.1 h
    obtain ⟨-, h⟩ := refuse_eq_ok.1 h
    cases h
    exact hs.withItems .nil .nil key
  | added h =>
    obtain ⟨_, -, h⟩ := bind_eq_ok.1 h
    obtain ⟨-, h⟩ := refuse_eq_ok.1 h
    obtain ⟨m, hm, h⟩ := bind_eq_ok.1 h
    obtain ⟨hnew, h⟩ := refuse_eq_ok.1 h
    cases h
    refine hs.store hm ((itemsAt_eq_of_find hm ▸ hs.distinct _ : Item.Distinct m.items).concat ?_)
    exact not_isSome_item?_iff.1 hnew
  | updated h =>
    obtain ⟨_, -, h⟩ := bind_eq_ok.1 h
    obtain ⟨m, hm, h⟩ := bind_eq_ok.1 h
    obtain ⟨-, h⟩ := refuse_eq_ok.1 h
    cases h
    exact hs.store hm (distinct_replaceFirst (itemsAt_eq_of_find hm ▸ hs.distinct _) _)
  | deleted h =>
    obtain ⟨_, -, h⟩ := bind_eq_ok.1 h
    obtain ⟨m, hm, h⟩ := bind_eq_ok.1 h
    obtain ⟨-, h⟩ := refuse_eq_ok.1 h
    cases h
    rw [itemsAt_of_find hs hm]
    exact hs.withItems ((hs.ordered _).sublist List.filter_sublist)
      ((hs.distinct _).sublist List.filter_sublist) _

/-- Menus kept in memory: what writes make of none. -/
def InMemory (s : Service) : Prop := Relation.ReflTransGen Written .empty s

theorem InMemory.orderly (hs : s.InMemory) : s.Orderly := by
  induction hs with
  | refl => exact orderly_empty
  | tail _ hwritten ih => exact hwritten.orderly ih

theorem inMemory_created (h : Text.key code ≠ "") :
    (empty.withItems (Text.key code) []).InMemory := by
  have hactive : Context.empty.cancelled = false := rfl
  have hnone : empty.menus.contains (Text.key code) = false := rfl
  have hcreate := orderly_empty.createMenu hactive hnone
  rw [if_neg h] at hcreate
  exact .single (.created hcreate)

theorem InMemory.concat (hs : (s.withItems (Text.key i.menuCode) items).InMemory)
    (hid : i.withId = i) (hlabel : Text.blank i.label = false)
    (hnew : ∀ j ∈ items, j.id ≠ i.id) (hordered : Item.Ordered (items ++ [i])) :
    (s.withItems (Text.key i.menuCode) (items ++ [i])).InMemory := by
  have hitems := itemsAt_withItems_self s (Text.key i.menuCode) items
  have hactive : Context.empty.cancelled = false := rfl
  have hadd := hs.orderly.addItem hactive (contains_withItems_self ..) hid hlabel
    (hitems.symm ▸ hnew)
  rw [hitems, withItems_withItems, Item.sort_of_ordered hordered] at hadd
  exact hs.tail (.added hadd)

theorem inMemory_withItems (hcode : Text.key code ≠ "")
    (hitems : ∀ i ∈ items, i.menuCode = code ∧ i.withId = i ∧ Text.blank i.label = false)
    (hdistinct : Item.Distinct items) (hordered : Item.Ordered items) :
    (empty.withItems (Text.key code) items).InMemory := by
  induction items using List.reverseRecOn with
  | nil => exact inMemory_created hcode
  | append_singleton items i ih =>
    have hsub := List.sublist_append_left items [i]
    have hmade := ih (fun j hj => hitems j (hsub.mem hj)) (hdistinct.sublist hsub)
      (hordered.sublist hsub)
    obtain ⟨rfl, hid, hlabel⟩ := hitems i List.mem_concat_self
    refine hmade.concat hid hlabel (fun j hj hsame => ?_) hordered
    rw [Item.Distinct, List.map_append, List.nodup_append] at hdistinct
    exact hdistinct.2.2 _ (List.mem_map_of_mem hj) _ List.mem_cons_self hsame

theorem dropItem_written (h : s.dropItem ctx code id = .ok t) : t = s ∨ s.Written t := by
  unfold dropItem at h
  split at h
  · rename_i hdelete
    cases h
    exact .inr (.deleted hdelete)
  · split at h
    · cases h
      exact .inl rfl
    · cases h

theorem ensureMenu_written (h : s.ensureMenu ctx code = .ok t) : t = s ∨ s.Written t := by
  unfold ensureMenu at h
  split at h
  · cases h
    exact .inl rfl
  · split at h
    · split at h
      · rename_i hcreate
        cases h
        exact .inr (.created hcreate)
      · split at h
        · cases h
          exact .inl rfl
        · cases h
    · cases h

end Backoffice.Menu.Service

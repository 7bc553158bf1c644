import Backoffice.Proofs.Menu.Merging
import Backoffice.Proofs.Text.Key

namespace Backoffice

namespace Menu.Service

variable {s t : Service} {code : String}

theorem distinct_set {code' : String} {m : Menu} (h : Item.Distinct (s.itemsAt code))
    (hm : code' = code → Item.Distinct m.items) :
    Item.Distinct ({ s with menus := s.menus.set code' m }.itemsAt code) := by
  rw [itemsAt, Dict.get?_set]
  split
  · rename_i hcode
    exact hm hcode.symm
  · exact h

theorem Written.distinct (h : s.Written t) (hs : Item.Distinct (s.itemsAt code)) :
    Item.Distinct (t.itemsAt code) := by
  have hfound : ∀ {code' m}, s.find code' = .ok m → Text.key code' = code →
      Item.Distinct m.items := by
    rintro code' m hm rfl
    exact itemsAt_eq_of_find hm ▸ hs
  cases h with
  | created h =>
    obtain ⟨_, -, h⟩ := bind_eq_ok.1 h
    dsimp only at h
    generalize Text.key _ = key at h
    obtain ⟨-, h⟩ := refuse_eq_ok.1 h
    obtain ⟨-, h⟩ := refuse_eq_ok.1 h
    cases h
    exact distinct_set hs fun _ => .nil
  | added h =>
    obtain ⟨_, -, h⟩ := bind_eq_ok.1 h
    obtain ⟨-, h⟩ := refuse_eq_ok.1 h
    obtain ⟨m, hm, h⟩ := bind_eq_ok.1 h
    obtain ⟨hnew, h⟩ := refuse_eq_ok.1 h
    cases h
    refine distinct_set hs fun hcode => ?_
    exact ((hfound hm hcode).concat (not_isSome_item?_iff.1 hnew)).perm (Item.sort_perm _).symm
  | updated h =>
    obtain ⟨_, -, h⟩ := bind_eq_ok.1 h
    obtain ⟨m, hm, h⟩ := bind_eq_ok.1 h
    obtain ⟨-, h⟩ := refuse_eq_ok.1 h
    cases h
    refine distinct_set hs fun hcode => ?_
    exact (distinct_replaceFirst (hfound hm hcode) _).perm (Item.sort_perm _).symm
  | deleted h =>
    obtain ⟨_, -, h⟩ := bind_eq_ok.1 h
    obtain ⟨m, hm, h⟩ := bind_eq_ok.1 h
    obtain ⟨-, h⟩ := refuse_eq_ok.1 h
    cases h
    exact distinct_set hs fun hcode => (hfound hm hcode).sublist List.filter_sublist

end Menu.Service

namespace Navigation

open Menu Call

variable {n : Navigation} {items items' : List Item} {code : String} {i j : Item}

def declared (n : Navigation) (code : String) : List Item := (n.get? code).getD []

def menuOf (i : Item) : String := Text.key i.menuCode

def Holds (n : Navigation) (i : Item) : Prop :=
  i.withId.id ∈ (n.declared (menuOf i)).map (·.id)

instance (n : Navigation) (i : Item) : Decidable (n.Holds i) := inferInstanceAs (Decidable (_ ∈ _))

theorem declared_set (n : Navigation) (code : String) (items : List Item) (code' : String) :
    declared (n.set code items) code' = if code' = code then items else n.declared code' := by
  rw [declared, Dict.get?_set]
  split <;> rfl

theorem menuOf_withId (i : Item) : menuOf i.withId = menuOf i := by
  rw [menuOf, Item.withId]
  split <;> rfl

theorem addItem_eq (n : Navigation) (i : Item) :
    n.addItem i = if n.Holds i then (0, n)
      else (1, n.set (menuOf i) (n.declared (menuOf i) ++ [i.withId])) := by
  have hany : (n.declared (menuOf i)).any (·.id == i.withId.id) = true ↔ n.Holds i := by
    simp [Holds]
  rw [← menuOf_withId i] at hany ⊢
  exact if_congr hany rfl rfl

theorem merge_foldl (items : List Item) (k : Nat) (n : Navigation) :
    items.foldl (fun x i => (x.1 + (x.2.addItem i).1, (x.2.addItem i).2)) (k, n) =
      (k + (n.merge items).1, (n.merge items).2) := by
  induction items generalizing k n with
  | nil => rfl
  | cons i rest ih =>
    have hmerge : n.merge (i :: rest) =
        rest.foldl (fun x i => (x.1 + (x.2.addItem i).1, (x.2.addItem i).2))
          (0 + (n.addItem i).1, (n.addItem i).2) := rfl
    rw [hmerge, List.foldl_cons, ih, ih, Nat.zero_add, Nat.add_assoc]

theorem merge_cons (n : Navigation) (i : Item) (rest : List Item) :
    n.merge (i :: rest) =
      ((n.addItem i).1 + ((n.addItem i).2.merge rest).1, ((n.addItem i).2.merge rest).2) := by
  rw [← merge_foldl, ← Nat.zero_add (n.addItem i).1]
  rfl

theorem Holds.addItem (h : n.Holds i) (j : Item) : (n.addItem j).2.Holds i := by
  rw [addItem_eq]
  split
  · exact h
  · rw [Holds, declared_set]
    split
    · rename_i hcode
      rw [List.map_append, List.mem_append, ← hcode]
      exact .inl h
    · exact h

theorem holds_addItem (n : Navigation) (i : Item) : (n.addItem i).2.Holds i := by
  rw [addItem_eq]
  split
  · assumption
  · rw [Holds, declared_set, if_pos rfl]
    simp

theorem Holds.merge (h : n.Holds i) (items : List Item) : (n.merge items).2.Holds i := by
  induction items generalizing n with
  | nil => exact h
  | cons j rest ih =>
    rw [merge_cons]
    exact ih (h.addItem j)

theorem holds_merge (n : Navigation) (hi : i ∈ items) : (n.merge items).2.Holds i := by
  induction items generalizing n with
  | nil => cases hi
  | cons j rest ih =>
    rw [merge_cons]
    rcases List.mem_cons.1 hi with rfl | hi
    · exact (holds_addItem n i).merge rest
    · exact ih _ hi

theorem merge_of_holds (h : ∀ i ∈ items, n.Holds i) : n.merge items = (0, n) := by
  induction items with
  | nil => rfl
  | cons i rest ih =>
    obtain ⟨hi, hrest⟩ := List.forall_mem_cons.1 h
    rw [merge_cons, addItem_eq, if_pos hi, ih hrest, Nat.zero_add]

theorem merge_again (n : Navigation) (items : List Item) :
    (n.merge items).2.merge items = (0, (n.merge items).2) :=
  merge_of_holds fun _ hi => holds_merge n hi

theorem holds_addItem_iff (hid : i.withId.id ≠ j.withId.id) :
    (n.addItem i).2.Holds j ↔ n.Holds j := by
  rw [addItem_eq]
  split
  · rfl
  · rw [Holds, declared_set]
    split
    · rename_i hcode
      rw [Holds, hcode, List.map_append, List.mem_append]
      simp [Ne.symm hid]
    · rfl

theorem distinct_addItem (h : Item.Distinct (n.declared code)) (i : Item) :
    Item.Distinct ((n.addItem i).2.declared code) := by
  rw [addItem_eq]
  split
  · exact h
  · rename_i hnew
    rw [declared_set]
    split
    · rename_i hcode
      subst hcode
      exact h.concat fun j hj hid => hnew (List.mem_map.2 ⟨j, hj, hid⟩)
    · exact h

theorem distinct_merge (h : Item.Distinct (n.declared code)) (items : List Item) :
    Item.Distinct ((n.merge items).2.declared code) := by
  induction items generalizing n with
  | nil => exact h
  | cons i rest ih =>
    rw [merge_cons]
    exact ih (distinct_addItem h i)

def fresh (n : Navigation) (items : List Item) : List Item := items.filter fun i => ¬n.Holds i

theorem merge_of_distinct (n : Navigation) (hids : (items.map (·.withId.id)).Nodup) :
    (n.merge items).1 = (n.fresh items).length ∧ ∀ code, (n.merge items).2.declared code =
      n.declared code ++ ((n.fresh items).filter (menuOf · = code)).map (·.withId) := by
  induction items generalizing n with
  | nil => exact ⟨rfl, fun code => (List.append_nil _).symm⟩
  | cons i rest ih =>
    obtain ⟨hi, hrest⟩ := List.nodup_cons.1 hids
    have hfresh : (n.addItem i).2.fresh rest = n.fresh rest := by
      refine List.filter_congr fun j hj => ?_
      have hid : i.withId.id ≠ j.withId.id := fun hid => hi (List.mem_map.2 ⟨j, hj, hid.symm⟩)
      simp only [holds_addItem_iff hid]
    obtain ⟨hcount, hdeclared⟩ := ih (n.addItem i).2 hrest
    rw [hfresh] at hcount hdeclared
    rw [merge_cons, hcount]
    simp only [hdeclared]
    rw [addItem_eq]
    split
    · rename_i hheld
      have hcons : n.fresh (i :: rest) = n.fresh rest :=
        List.filter_cons_of_neg (by simpa using hheld)
      rw [hcons]
      exact ⟨Nat.zero_add _, fun _ => rfl⟩
    · rename_i hnew
      have hcons : n.fresh (i :: rest) = i :: n.fresh rest :=
        List.filter_cons_of_pos (by simpa using hnew)
      rw [hcons]
      refine ⟨Nat.add_comm _ _, fun code => ?_⟩
      rw [declared_set]
      split
      · rename_i hcode
        rw [List.filter_cons_of_pos (by simpa using hcode.symm), hcode]
        simp
      · rename_i hcode
        rw [List.filter_cons_of_neg (by simpa using Ne.symm hcode)]

theorem merge_perm (n : Navigation) (hperm : items.Perm items')
    (hids : (items.map (·.withId.id)).Nodup) :
    (n.merge items').1 = (n.merge items).1 ∧
      ∀ code, ((n.merge items').2.declared code).Perm ((n.merge items).2.declared code) := by
  obtain ⟨hcount, hdeclared⟩ := merge_of_distinct n hids
  obtain ⟨hcount', hdeclared'⟩ := merge_of_distinct n ((hperm.map _).nodup_iff.1 hids)
  have hfresh : (n.fresh items').Perm (n.fresh items) := hperm.symm.filter _
  refine ⟨by rw [hcount, hcount', hfresh.length_eq], fun code => ?_⟩
  rw [hdeclared, hdeclared']
  exact ((hfresh.filter _).map _).append_left _

def itemsFor (items : List Item) (code : String) : List Item :=
  (items.filter (menuOf · = code)).map (·.withId)

theorem get?_byMenu (items : List Item) (code : String) :
    (byMenu items).get? code = if itemsFor items code = [] then none else itemsFor items code := by
  suffices h : ∀ d : Dict (List Item), (items.foldl (fun d i =>
      d.set (menuOf i) ((d.get? (menuOf i)).getD [] ++ [i.withId])) d).get? code =
        if itemsFor items code = [] then d.get? code
        else some ((d.get? code).getD [] ++ itemsFor items code) from h .empty
  induction items with
  | nil => exact fun d => rfl
  | cons i rest ih =>
    intro d
    rw [List.foldl_cons, ih, Dict.get?_set]
    by_cases hcode : menuOf i = code
    · subst hcode
      have hcons : itemsFor (i :: rest) (menuOf i) = i.withId :: itemsFor rest (menuOf i) := by
        simp [itemsFor]
      rw [hcons, if_pos rfl]
      simp only [List.cons_ne_nil, if_false, Option.getD_some]
      split
      · rename_i hrest
        rw [hrest]
      · simp
    · have hcons : itemsFor (i :: rest) code = itemsFor rest code := by
        simp [itemsFor, hcode]
      rw [hcons, if_neg (Ne.symm hcode)]

def menusOf (items : List Item) : List String := (byMenu items).keys

theorem mem_menusOf : code ∈ menusOf items ↔ itemsFor items code ≠ [] := by
  have hget := get?_byMenu items code
  rw [menusOf, Dict.mem_keys_iff, hget]
  split <;> simp [*]

theorem entries_byMenu (items : List Item) :
    (byMenu items).entries = (menusOf items).map fun code => (code, itemsFor items code) := by
  rw [menusOf, Dict.keys, List.map_map]
  refine (List.map_id _).symm.trans (List.map_congr_left fun entry hentry => ?_)
  have hget : (byMenu items).get? entry.1 = some entry.2 :=
    (Entries.get?_eq_some_iff (byMenu items).sorted).2 hentry
  rw [get?_byMenu] at hget
  split at hget
  · cases hget
  · exact Prod.ext rfl (Option.some.inj hget).symm

theorem itemsFor_perm (hperm : items.Perm items') (code : String) :
    (itemsFor items code).Perm (itemsFor items' code) := (hperm.filter _).map _

theorem menusOf_perm (hperm : items.Perm items') : menusOf items = menusOf items' := by
  refine Dict.keys_congr fun code => ?_
  rw [← menusOf, ← menusOf, mem_menusOf, mem_menusOf, ne_eq, ne_eq,
    ← List.length_eq_zero_iff, ← List.length_eq_zero_iff, (itemsFor_perm hperm code).length_eq]

theorem canonicalKey_setId (i : Item) (id : String) :
    ({ i with id } : Item).canonicalKey = i.canonicalKey := by
  rw [Item.canonicalKey, Item.canonicalKey]

theorem canonicalKey_withId (i : Item) : i.withId.canonicalKey = i.canonicalKey := by
  rw [Item.withId]
  split
  · rw [canonicalKey_setId]
  · rfl

theorem withId_withId (i : Item) : i.withId.withId = i.withId := by
  by_cases hid : Text.blank i.id = true
  · have hfilled : i.withId = { i with id := i.canonicalKey } := by
      rw [Item.withId, if_pos hid]
    rw [hfilled, Item.withId]
    split
    · rw [canonicalKey_setId]
    · rfl
  · have hkept : i.withId = i := by
      rw [Item.withId, if_neg hid]
    rw [hkept, hkept]

theorem filed_itemsFor (items : List Item) (code : String) : Filed code (itemsFor items code) := by
  intro i hi
  obtain ⟨j, hj, rfl⟩ := List.mem_map.1 hi
  refine ⟨withId_withId j, ?_⟩
  rw [← menuOf, menuOf_withId]
  exact of_decide_eq_true (List.mem_filter.1 hj).2

theorem key_menusOf (hcode : code ∈ menusOf items) : Text.key code = code := by
  obtain ⟨i, hi⟩ := List.exists_mem_of_ne_nil _ (mem_menusOf.1 hcode)
  rw [← (filed_itemsFor items code i hi).2, Text.key_key]

theorem nodup_itemsFor {f : Item → String} (h : (items.map fun i => f i.withId).Nodup)
    (code : String) : ((itemsFor items code).map f).Nodup := by
  rw [itemsFor, List.map_map]
  exact h.sublist (List.filter_sublist.map _)

section Menus

variable {ctx : Context} {s t : Service} {supply supply' : Supply} {k : Nat}

theorem mergeMenus_byMenu_eq_ok_iff (hup : s.outages = .empty) :
    mergeMenus ctx (byMenu items).entries (supply, s) = (.ok k, supply', t) ↔
      supply' = supply ∧ (menusOf items = [] ∨ ctx.cancelled = false) ∧
        s.Merges ((menusOf items).map fun code => (code, itemsFor items code)) k t := by
  rw [entries_byMenu, mergeMenus_eq_ok_iff hup ?_, List.map_eq_nil_iff]
  intro part hpart
  obtain ⟨code, hcode, rfl⟩ := List.mem_map.1 hpart
  exact ⟨key_menusOf hcode, filed_itemsFor items code⟩

theorem outages_of_merges {parts : List (String × List Item)} (h : s.Merges parts k t) :
    t.outages = s.outages := by
  induction h with
  | done => rfl
  | menu _ _ _ ih => exact ih

theorem mergeMenus_again (hup : s.outages = .empty)
    (h : mergeMenus ctx (byMenu items).entries (supply, s) = (.ok k, supply', t)) :
    mergeMenus ctx (byMenu items).entries (supply', t) = (.ok 0, supply', t) := by
  obtain ⟨-, hactive, hmerges⟩ := (mergeMenus_byMenu_eq_ok_iff hup).1 h
  refine (mergeMenus_byMenu_eq_ok_iff ((outages_of_merges hmerges).trans hup)).2 ⟨rfl, hactive, ?_⟩
  refine hmerges.again ?_
  rw [List.map_map]
  exact (List.map_id _).symm ▸ (byMenu items).nodup_keys

theorem mergeMenus_perm (hup : s.outages = .empty) (hperm : items.Perm items')
    (hkeys : (items.map (·.canonicalKey)).Nodup) (hids : (items.map (·.withId.id)).Nodup)
    (h : mergeMenus ctx (byMenu items).entries (supply, s) = (.ok k, supply', t)) :
    mergeMenus ctx (byMenu items').entries (supply, s) = (.ok k, supply', t) := by
  obtain ⟨hsupply, hactive, hmerges⟩ := (mergeMenus_byMenu_eq_ok_iff hup).1 h
  rw [menusOf_perm hperm] at hactive hmerges
  refine (mergeMenus_byMenu_eq_ok_iff hup).2 ⟨hsupply, hactive, ?_⟩
  have hkeys' : (items.map fun i => i.withId.canonicalKey).Nodup := by
    simp only [canonicalKey_withId]
    exact hkeys
  exact hmerges.perm (fun code _ => itemsFor_perm hperm code)
    (fun code _ => nodup_itemsFor hkeys' code) fun code _ => nodup_itemsFor hids code

theorem mergeMenus_distinct (supply : Supply) (h : Item.Distinct (s.itemsAt code))
    (parts : List (String × List Item)) :
    Item.Distinct ((mergeMenus ctx parts (supply, s)).2.2.itemsAt code) :=
  leaves_mergeMenus (R := fun s => Item.Distinct (s.itemsAt code))
    (fun hs h => Service.Written.distinct (.created h) hs)
    (fun hs h => Service.Written.distinct (.added h) hs) h parts supply

theorem mergeItems_apply (ctx : Context) (hasMenus : Bool) (items : List Item) (supply : Supply)
    (n : Navigation) (s : Service) :
    mergeItems ctx hasMenus items (supply, n, s) =
      if hasMenus then
        let merged := mergeMenus ctx (byMenu items).entries (supply, s)
        (merged.1, merged.2.1, (n.merge items).2, merged.2.2)
      else (.ok (n.merge items).1, supply, (n.merge items).2, s) := by
  cases hasMenus <;> rfl

theorem mergeItems_eq_ok_iff {hasMenus : Bool} {n n' : Navigation} :
    mergeItems ctx hasMenus items (supply, n, s) = (.ok k, supply', n', t) ↔
      n' = (n.merge items).2 ∧
        if hasMenus then mergeMenus ctx (byMenu items).entries (supply, s) = (.ok k, supply', t)
        else k = (n.merge items).1 ∧ supply' = supply ∧ t = s := by
  rw [mergeItems_apply]
  cases hasMenus with
  | true =>
    obtain ⟨r, supply₁, s₁⟩ := mergeMenus ctx (byMenu items).entries (supply, s)
    constructor
    · rintro ⟨⟩
      exact ⟨rfl, rfl⟩
    · rintro ⟨rfl, ⟨⟩⟩
      rfl
  | false =>
    constructor
    · rintro ⟨⟩
      exact ⟨rfl, rfl, rfl, rfl⟩
    · rintro ⟨rfl, rfl, rfl, rfl⟩
      rfl

end Menus

/-- A merge that succeeded can be repeated and adds nothing; where keys and ids are distinct the
items can be merged in any order; and no merge, whatever comes of it, gives a menu two items with
one id. -/
theorem merge_converges {ctx : Context} {hasMenus : Bool} {items : List Item} {supply : Supply}
    {n : Navigation} {s : Service} (hup : s.outages = .empty) :
    (∀ {k supply' n' s'},
      mergeItems ctx hasMenus items (supply, n, s) = (.ok k, supply', n', s') →
        mergeItems ctx hasMenus items (supply', n', s') = (.ok 0, supply', n', s') ∧
        ∀ {items'}, items.Perm items' → (items.map (·.canonicalKey)).Nodup →
          (items.map (·.withId.id)).Nodup →
            ∃ n'', mergeItems ctx hasMenus items' (supply, n, s) = (.ok k, supply', n'', s') ∧
              ∀ code, (n''.declared code).Perm (n'.declared code)) ∧
    ∀ code,
      let merged := (mergeItems ctx hasMenus items (supply, n, s)).2.2
      (Item.Distinct (s.itemsAt code) → Item.Distinct (merged.2.itemsAt code)) ∧
        (Item.Distinct (n.declared code) → Item.Distinct (merged.1.declared code)) := by
  refine ⟨fun {k supply' n' s'} hmerged => ⟨?_, fun {items'} hperm hkeys hids => ?_⟩, fun code => ?_⟩
  · obtain ⟨rfl, hmenus⟩ := mergeItems_eq_ok_iff.1 hmerged
    rw [mergeItems_eq_ok_iff, merge_again]
    cases hasMenus with
    | true => exact ⟨rfl, mergeMenus_again hup hmenus⟩
    | false => exact ⟨rfl, rfl, rfl, rfl⟩
  · obtain ⟨rfl, hmenus⟩ := mergeItems_eq_ok_iff.1 hmerged
    obtain ⟨hcount, hdeclared⟩ := merge_perm n hperm hids
    refine ⟨_, mergeItems_eq_ok_iff.2 ⟨rfl, ?_⟩, hdeclared⟩
    cases hasMenus with
    | true => exact mergeMenus_perm hup hperm hkeys hids hmenus
    | false => exact ⟨hmenus.1.trans hcount.symm, hmenus.2⟩
  · dsimp only
    rw [mergeItems_apply]
    cases hasMenus with
    | true => exact ⟨fun h => mergeMenus_distinct supply h _, fun h => distinct_merge h items⟩
    | false => exact ⟨id, fun h => distinct_merge h items⟩

def mainLink (id label path : String) : Item := { Item.new "Main" label (.url path) with id }

theorem merge_converges_links :
    let start : Supply × Navigation × Service := (⟨default, 0⟩, .empty, .empty)
    let links := [mainLink "" "Pages" "/pages", mainLink "media" "Media" "/media/"]
    let merged := mergeItems default true links start
    start.2.2.outages = .empty ∧ merged.1 = .ok 2 ∧
      (links.map (·.canonicalKey)).Nodup ∧ (links.map (·.withId.id)).Nodup ∧
      mergeItems default true links merged.2 = (.ok 0, merged.2) ∧
      (mergeItems default true links.reverse start).2.2.2 = merged.2.2.2 := by
  intro start links merged
  have hmerged : merged.1 = .ok 2 := by decide +kernel
  have hkeys : (links.map (·.canonicalKey)).Nodup := by decide +kernel
  have hids : (links.map (·.withId.id)).Nodup := by decide +kernel
  have hrun : mergeItems default true links (⟨default, 0⟩, .empty, .empty) =
      (.ok 2, merged.2.1, merged.2.2.1, merged.2.2.2) := Prod.ext hmerged rfl
  obtain ⟨hagain, hreordered⟩ := (merge_converges rfl).1 hrun
  obtain ⟨n, hreversed, -⟩ := hreordered links.reverse_perm.symm hkeys hids
  exact ⟨rfl, hmerged, hkeys, hids, hagain, by rw [hreversed]⟩

end Navigation

end Backoffice

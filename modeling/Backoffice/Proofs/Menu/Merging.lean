import Backoffice.Navigation
import Backoffice.Proofs.Ensures
import Backoffice.Proofs.Menu.InMemory

namespace Backoffice

namespace Menu.Item

def names (items : List Item) : List String := items.flatMap fun i => [i.id, i.canonicalKey]

theorem mem_names {name : String} {items : List Item} :
    name ∈ names items ↔ ∃ i ∈ items, name = i.id ∨ name = i.canonicalKey := by
  simp [names]

inductive Offered (known : List String) (held : List Item) (i : Item) : Nat → List Item → Prop
  | known : i.canonicalKey ∈ known → Offered known held i 0 held
  | taken : i.canonicalKey ∉ known → Text.blank i.label = false → i.id ∈ held.map (·.id) →
    Offered known held i 0 held
  | added : i.canonicalKey ∉ known → Text.blank i.label = false → i.id ∉ held.map (·.id) →
    Offered known held i 1 (sort (held ++ [i]))

inductive Adds : List String → List Item → List Item → Nat → List Item → Prop
  | done {known : List String} {held : List Item} : Adds known held [] 0 held
  | offered {known : List String} {held held₁ held₂ rest : List Item} {i : Item} {k n : Nat} :
    Offered known held i k held₁ → Adds (i.canonicalKey :: known) held₁ rest n held₂ →
      Adds known held (i :: rest) (k + n) held₂

variable {known known' : List String} {held held₁ held₂ items items' : List Item} {i j : Item}
  {k l n : Nat}

theorem mem_map_id_sort {id : String} :
    id ∈ (sort items).map (·.id) ↔ id ∈ items.map (·.id) := ((sort_perm items).map _).mem_iff

theorem offered_or_blank (known : List String) (held : List Item) (i : Item) :
    (∃ k held₁, Offered known held i k held₁) ∨
      (i.canonicalKey ∉ known ∧ Text.blank i.label = true) := by
  by_cases hkey : i.canonicalKey ∈ known
  · exact .inl ⟨0, held, .known hkey⟩
  · cases hlabel : Text.blank i.label with
    | true => exact .inr ⟨hkey, rfl⟩
    | false =>
      by_cases hid : i.id ∈ held.map (·.id)
      · exact .inl ⟨0, held, .taken hkey hlabel hid⟩
      · exact .inl ⟨1, _, .added hkey hlabel hid⟩

namespace Offered

theorem congr (h : Offered known held i k held₁) (hknown : ∀ key, key ∈ known ↔ key ∈ known') :
    Offered known' held i k held₁ := by
  cases h with
  | known hkey => exact .known ((hknown _).1 hkey)
  | taken hkey hlabel hid => exact .taken (mt (hknown _).2 hkey) hlabel hid
  | added hkey hlabel hid => exact .added (mt (hknown _).2 hkey) hlabel hid

theorem subset (h : Offered known held i k held₁) : held ⊆ held₁ := by
  intro j hj
  cases h with
  | known => exact hj
  | taken => exact hj
  | added => exact mem_sort.2 (List.mem_append_left _ hj)

theorem mem_ids_iff (h : Offered known held i k held₁) (hid : i.id ≠ j.id) :
    j.id ∈ held₁.map (·.id) ↔ j.id ∈ held.map (·.id) := by
  cases h with
  | known => rfl
  | taken => rfl
  | added =>
    rw [mem_map_id_sort, List.map_append, List.mem_append]
    simp [Ne.symm hid]

theorem swap (hi : Offered known held i k held₁)
    (hj : Offered (i.canonicalKey :: known) held₁ j l held₂)
    (hkey : i.canonicalKey ≠ j.canonicalKey) (hid : i.id ≠ j.id) :
    ∃ held', Offered known held j l held' ∧
      Offered (j.canonicalKey :: known) held' i k held₂ := by
  have hids := hi.mem_ids_iff hid
  have hj' : j.canonicalKey ∈ i.canonicalKey :: known ↔ j.canonicalKey ∈ known := by
    simp [Ne.symm hkey]
  have hi' : i.canonicalKey ∈ j.canonicalKey :: known ↔ i.canonicalKey ∈ known := by
    simp [hkey]
  have hkept : ∀ {held'}, Offered known held j l held' → held' = held →
      held₂ = held₁ → ∃ held', Offered known held j l held' ∧
        Offered (j.canonicalKey :: known) held' i k held₂ := by
    rintro _ hoffered rfl rfl
    refine ⟨_, hoffered, ?_⟩
    cases hi with
    | known hki => exact .known (hi'.2 hki)
    | taken hki hlabel hin => exact .taken (mt hi'.1 hki) hlabel hin
    | added hki hlabel hin => exact .added (mt hi'.1 hki) hlabel hin
  cases hj with
  | known hkj => exact hkept (.known (hj'.1 hkj)) rfl rfl
  | taken hkj hlabel hin => exact hkept (.taken (mt hj'.2 hkj) hlabel (hids.1 hin)) rfl rfl
  | added hkj hlabel hin =>
    have hadded : Offered known held j 1 (sort (held ++ [j])) :=
      .added (mt hj'.2 hkj) hlabel (mt hids.2 hin)
    refine ⟨_, hadded, ?_⟩
    have hids' := hadded.mem_ids_iff (Ne.symm hid)
    cases hi with
    | known hki => exact .known (hi'.2 hki)
    | taken hki hlabel hini => exact .taken (mt hi'.1 hki) hlabel (hids'.2 hini)
    | added hki hlabel hini =>
      rw [sort_concat_comm hid]
      exact .added (mt hi'.1 hki) hlabel (mt hids'.1 hini)

end Offered

namespace Adds

theorem congr (h : Adds known held items n held₁) (hknown : ∀ key, key ∈ known ↔ key ∈ known') :
    Adds known' held items n held₁ := by
  induction h generalizing known' with
  | done => exact .done
  | offered hi _ ih =>
    refine .offered (hi.congr hknown) (ih fun key => ?_)
    simp [hknown key]

theorem subset (h : Adds known held items n held₁) : held ⊆ held₁ := by
  induction h with
  | done => exact List.Subset.refl _
  | offered hi _ ih => exact List.Subset.trans hi.subset ih

theorem perm (hperm : items.Perm items') (hkeys : (items.map (·.canonicalKey)).Nodup)
    (hids : (items.map (·.id)).Nodup) (h : Adds known held items n held₁) :
    Adds known held items' n held₁ := by
  induction hperm generalizing known held n with
  | nil => exact h
  | cons i _ ih =>
    cases h with
    | offered hi hrest =>
      exact .offered hi (ih (List.nodup_cons.1 hkeys).2 (List.nodup_cons.1 hids).2 hrest)
  | swap j i rest =>
    cases h with
    | offered hi hrest =>
      cases hrest with
      | offered hj hrest =>
        have hkey : i.canonicalKey ≠ j.canonicalKey := by
          simp only [List.map_cons, List.nodup_cons, List.mem_cons, not_or] at hkeys
          exact hkeys.1.1
        have hid : i.id ≠ j.id := by
          simp only [List.map_cons, List.nodup_cons, List.mem_cons, not_or] at hids
          exact hids.1.1
        obtain ⟨held', hj', hi'⟩ := hi.swap hj hkey hid
        rw [Nat.add_left_comm]
        refine .offered hj' (.offered hi' (hrest.congr fun key => ?_))
        simp only [List.mem_cons, or_left_comm]
  | trans hfirst _ ih ih' =>
    exact ih' ((hfirst.map _).nodup_iff.1 hkeys) ((hfirst.map _).nodup_iff.1 hids)
      (ih hkeys hids h)

theorem again (h : Adds known held items n held₁) (hknown : known ⊆ known')
    (hnames : names held₁ ⊆ known') : Adds known' held₁ items 0 held₁ := by
  induction h generalizing known' with
  | done => exact .done
  | @offered known held held' held₁ rest i k n hi hrest ih =>
    have hrest' : Adds (i.canonicalKey :: known') held₁ rest 0 held₁ :=
      ih (List.cons_subset_cons _ hknown) (List.Subset.trans hnames (List.subset_cons_self _ _))
    refine .offered (k := 0) ?_ hrest'
    cases hi with
    | known hkey => exact .known (hknown hkey)
    | taken _ hlabel hid =>
      by_cases hkey : i.canonicalKey ∈ known'
      · exact .known hkey
      · exact .taken hkey hlabel (List.map_subset _ hrest.subset hid)
    | added =>
      have hi : i ∈ held₁ := hrest.subset (mem_sort.2 (by simp))
      exact .known (hnames (mem_names.2 ⟨i, hi, .inr rfl⟩))

end Adds

end Menu.Item

namespace Menu.Service

variable {s t u : Service} {ctx : Context} {code code' : String} {i j : Item}
  {items held held' : List Item}

def refill (s : Service) (code : String) (items : List Item) : Service :=
  { s with menus := s.menus.set code { (s.menus.get? code).getD ⟨code, []⟩ with items } }

theorem itemsAt_refill (s : Service) (code : String) (items : List Item) (code' : String) :
    (s.refill code items).itemsAt code' = if code' = code then items else s.itemsAt code' := by
  rw [itemsAt, refill, Dict.get?_set]
  split <;> rfl

@[simp] theorem itemsAt_refill_self (s : Service) (code : String) (items : List Item) :
    (s.refill code items).itemsAt code = items := by
  rw [itemsAt_refill, if_pos rfl]

theorem contains_refill (s : Service) (code : String) (items : List Item) :
    (s.refill code items).menus.contains code = true := by
  simp [refill, Dict.contains]

theorem get?_refill_of_ne (h : code' ≠ code) :
    (s.refill code items).menus.get? code' = s.menus.get? code' := Dict.get?_set_ne _ h _

@[simp] theorem refill_refill (s : Service) (code : String) (items items' : List Item) :
    (s.refill code items).refill code items' = s.refill code items' := by
  simp [refill]

theorem refill_itemsAt (h : s.menus.contains code = true) :
    s.refill code (s.itemsAt code) = s := by
  obtain ⟨m, hm⟩ := Option.isSome_iff_exists.1 h
  have hsame : { (s.menus.get? code).getD ⟨code, []⟩ with items := s.itemsAt code } = m := by
    rw [itemsAt, hm]
    rfl
  rw [refill, hsame, Dict.set_get? hm]

theorem find_eq_ok (h : s.menus.contains (Text.key code) = true) :
    ∃ m, s.menus.get? (Text.key code) = some m ∧ s.find code = .ok m := by
  obtain ⟨m, hm⟩ := Option.isSome_iff_exists.1 h
  exact ⟨m, hm, by rw [find, hm]⟩

inductive Merges : Service → List (String × List Item) → Nat → Service → Prop
  | done {s : Service} : Merges s [] 0 s
  | menu {s t : Service} {code : String} {items held : List Item}
    {rest : List (String × List Item)} {k n : Nat} :
    s.menus.contains code = true ∨ code ≠ "" →
    Item.Adds (Item.names (s.itemsAt code)) (s.itemsAt code) items k held →
    Merges (s.refill code held) rest n t → Merges s ((code, items) :: rest) (k + n) t

namespace Merges

variable {s t : Service} {parts : List (String × List Item)} {code : String} {n : Nat}

theorem get?_eq (h : Merges s parts n t) (hcode : code ∉ parts.map (·.1)) :
    t.menus.get? code = s.menus.get? code := by
  induction h with
  | done => rfl
  | menu _ _ _ ih =>
    rw [List.map_cons, List.mem_cons, not_or] at hcode
    rw [ih hcode.2, get?_refill_of_ne hcode.1]

theorem itemsAt_eq (h : Merges s parts n t) (hcode : code ∉ parts.map (·.1)) :
    t.itemsAt code = s.itemsAt code := by rw [itemsAt, h.get?_eq hcode, itemsAt]

theorem again (h : Merges s parts n t) (hcodes : (parts.map (·.1)).Nodup) :
    Merges t parts 0 t := by
  induction h with
  | done => exact .done
  | @menu s t code items held rest k n _ hadds hrest ih =>
    obtain ⟨hcode, hcodes⟩ := List.nodup_cons.1 hcodes
    have hitems : t.itemsAt code = held := by
      rw [hrest.itemsAt_eq hcode, itemsAt_refill_self]
    have hmenu : t.menus.contains code = true := by
      rw [Dict.contains, hrest.get?_eq hcode]
      exact contains_refill s code held
    have hagain : Item.Adds (Item.names held) held items 0 held := by
      refine hadds.again (fun name hname => ?_) (List.Subset.refl _)
      obtain ⟨i, hi, hname⟩ := Item.mem_names.1 hname
      exact Item.mem_names.2 ⟨i, hadds.subset hi, hname⟩
    refine .menu (k := 0) (n := 0) (.inl hmenu) (hitems.symm ▸ hagain) ?_
    rw [refill_itemsAt hmenu]
    exact ih hcodes

theorem perm {codes : List String} {f g : String → List Item}
    (hperm : ∀ code ∈ codes, (f code).Perm (g code))
    (hkeys : ∀ code ∈ codes, ((f code).map (·.canonicalKey)).Nodup)
    (hids : ∀ code ∈ codes, ((f code).map (·.id)).Nodup)
    (h : Merges s (codes.map fun code => (code, f code)) n t) :
    Merges s (codes.map fun code => (code, g code)) n t := by
  induction codes generalizing s n with
  | nil => exact h
  | cons code codes ih =>
    rw [List.forall_mem_cons] at hperm hkeys hids
    cases h with
    | menu hcode hadds hrest =>
      exact .menu hcode (hadds.perm hperm.1 hkeys.1 hids.1) (ih hperm.2 hkeys.2 hids.2 hrest)

end Merges

variable (hup : s.outages = .empty)
include hup

theorem allow_of_up (ctx : Context) (method : Method) : s.allow ctx method = ctx.ensureActive := by
  rw [allow, hup]
  rfl

theorem addItem_of_up (hactive : ctx.cancelled = false)
    (hmenu : s.menus.contains (Text.key i.menuCode) = true) (hid : i.withId = i) :
    s.addItem ctx i =
      if Text.blank i.label then .error (.invalid "label" "menu item label is required")
      else if i.id ∈ (s.itemsAt (Text.key i.menuCode)).map (·.id) then
        .error (.alreadyExists "menu item" i.id)
      else .ok (i, s.refill (Text.key i.menuCode)
        (Item.sort (s.itemsAt (Text.key i.menuCode) ++ [i]))) := by
  obtain ⟨m, hm, hfind⟩ := find_eq_ok hmenu
  have hitems : s.itemsAt (Text.key i.menuCode) = m.items := itemsAt_eq_of_find hfind
  have htaken : (m.item? i.id).isSome = true ↔ i.id ∈ m.items.map (·.id) := by
    simp [item?]
  rw [addItem, allow_of_up hup, Context.ensureActive_eq_ok.2 hactive, hid, hitems, refill, hm]
  by_cases hlabel : Text.blank i.label = true
  · refine Eq.trans (bind_eq_error.2 (.inr ⟨(), rfl, ?_⟩)) (if_pos hlabel).symm
    exact refuse_eq_error.2 (.inl ⟨hlabel, rfl⟩)
  · refine Eq.trans ?_ (if_neg hlabel).symm
    by_cases hin : i.id ∈ m.items.map (·.id)
    · refine Eq.trans (bind_eq_error.2 (.inr ⟨(), rfl, ?_⟩)) (if_pos hin).symm
      refine refuse_eq_error.2 (.inr ⟨hlabel, bind_eq_error.2 (.inr ⟨m, hfind, ?_⟩)⟩)
      exact refuse_eq_error.2 (.inl ⟨htaken.2 hin, rfl⟩)
    · refine Eq.trans (bind_eq_ok.2 ⟨(), rfl, ?_⟩) (if_neg hin).symm
      refine refuse_eq_ok.2 ⟨hlabel, bind_eq_ok.2 ⟨m, hfind, ?_⟩⟩
      exact refuse_eq_ok.2 ⟨mt htaken.1 hin, rfl⟩

theorem createMenu_of_up (hactive : ctx.cancelled = false)
    (hmenu : s.menus.contains (Text.key code) = false) :
    s.createMenu ctx code =
      if Text.key code = "" then .error (.invalid "code" "menu code is required")
      else .ok (⟨Text.key code, []⟩, s.refill (Text.key code) []) := by
  rw [createMenu, allow_of_up hup, Context.ensureActive_eq_ok.2 hactive, refill,
    (Dict.contains_eq_false_iff _ _).1 hmenu]
  dsimp only
  generalize Text.key code = key at hmenu ⊢
  rw [hmenu]
  by_cases hempty : key = ""
  · rw [if_pos hempty, if_pos (beq_iff_eq.2 hempty)]
    rfl
  · rw [if_neg hempty, if_neg (mt beq_iff_eq.1 hempty)]
    rfl

end Menu.Service

namespace Navigation

open Menu Menu.Item Call

variable {s t : Menu.Service} {ctx : Context} {code : String} {i : Menu.Item}
  {known known' : List String} {items rest held : List Menu.Item} {k n : Nat}
  {supply supply' : Supply}

def Filed (code : String) (items : List Menu.Item) : Prop :=
  ∀ i ∈ items, i.withId = i ∧ Text.key i.menuCode = code

theorem addMissing_congr (h : ∀ key, key ∈ known ↔ key ∈ known') :
    addMissing ctx known items = addMissing ctx known' items := by
  induction items generalizing known known' with
  | nil => rfl
  | cons i rest ih =>
    have hcontains : known.contains i.canonicalKey = known'.contains i.canonicalKey := by
      rw [Bool.eq_iff_iff, List.contains_iff_mem, List.contains_iff_mem, h]
    have hcons : ∀ key, key ∈ i.canonicalKey :: known ↔ key ∈ i.canonicalKey :: known' :=
      fun key => by simp [h]
    rw [addMissing, addMissing, hcontains, ih hcons, ih h]

theorem count_eq_ok_iff {c : Call Menu.Service Nat} {s t : Supply × Menu.Service} :
    (do let m ← c; pure (k + m)) s = (.ok n, t) ↔ ∃ m, c s = (.ok m, t) ∧ n = k + m := by
  rw [bind_apply_eq_ok]
  constructor
  · rintro ⟨m, s', hm, h⟩
    cases h
    exact ⟨m, hm, rfl⟩
  · rintro ⟨m, hm, rfl⟩
    exact ⟨m, t, hm, rfl⟩

theorem addMissing_unknown (hkey : i.canonicalKey ∉ known) {r : Except Fault Unit}
    {s' : Supply × Menu.Service}
    (h : Call.update (fun s : Menu.Service => do .ok (← s.addItem ctx i).2) (supply, s) = (r, s')) :
    addMissing ctx known (i :: rest) (supply, s) =
      (do
        let k ← match r with
          | .ok () => pure 1
          | .error e => if e.isAlreadyExists then pure 0 else throw e
        let n ← addMissing ctx (i.canonicalKey :: known) rest
        pure (k + n)) s' := by
  rw [addMissing, if_neg (mt List.contains_iff_mem.1 hkey)]
  refine bind_apply_ok ?_ _
  rw [attempt, h]

section Keeps

variable {R : Menu.Service → Prop}
  (hcreate : ∀ {s t code m}, R s → s.createMenu ctx code = .ok (m, t) → R t)
  (hadd : ∀ {s t i j}, R s → s.addItem ctx i = .ok (j, t) → R t) (hs : R s)

include hcreate hs in
theorem leaves_present (code : String) : (present ctx code).Leaves s R := by
  refine Leaves.bind (I := R) (Ensures.attempt ((quiet_asks _).leaves hs))
    (fun found t ht => ?_) fun _ ht => ht
  cases found with
  | ok m => exact ensures_pure ht
  | error e =>
    dsimp only
    split
    · refine Leaves.bind (I := R) (Ensures.attempt (ensures_update (fun u hu => ?_) fun _ _ => ht))
        (fun made u hu => ?_) fun _ hu => hu
      · obtain ⟨_, hmade, hu⟩ := bind_eq_ok.1 hu
        cases hu
        exact hcreate ht hmade
      · cases made with
        | ok _ => exact ensures_pure hu
        | error e =>
          dsimp only
          split
          · exact ensures_pure hu
          · exact ensures_throw hu
    · exact ensures_throw ht

include hadd hs in
theorem leaves_addMissing (known : List String) (items : List Menu.Item) :
    (addMissing ctx known items).Leaves s R := by
  induction items generalizing known s with
  | nil => exact ensures_pure hs
  | cons i rest ih =>
    unfold addMissing
    split
    · exact ih hs known
    · refine Leaves.bind (I := R) (Ensures.attempt (ensures_update (fun t ht => ?_) fun _ _ => hs))
        (fun added t ht => ?_) fun _ ht => ht
      · obtain ⟨_, hadded, ht⟩ := bind_eq_ok.1 ht
        cases ht
        exact hadd hs hadded
      · have hrest : ∀ k : Nat, (do
            let n ← addMissing ctx (i.canonicalKey :: known) rest
            pure (k + n)).Leaves t R :=
          fun k => Leaves.answer (ih ht _)
        cases added with
        | ok _ => exact hrest 1
        | error e =>
          dsimp only
          split
          · exact hrest 0
          · exact ensures_throw ht

include hcreate hadd hs in
theorem leaves_mergeMenus (parts : List (String × List Menu.Item)) :
    (mergeMenus ctx parts).Leaves s R := by
  induction parts generalizing s with
  | nil => exact ensures_pure hs
  | cons part rest ih =>
    refine Leaves.bind (leaves_present hcreate hs part.1) (fun known t ht => ?_) fun _ ht => ht
    refine Leaves.bind (leaves_addMissing hadd ht known part.2) (fun n u hu => ?_) fun _ hu => hu
    exact Leaves.answer (ih hu)

end Keeps

variable (hup : s.outages = .empty) (hactive : ctx.cancelled = false)
include hup hactive

theorem addMissing_offered (hmenu : s.menus.contains code = true) (hid : i.withId = i)
    (hcode : Text.key i.menuCode = code) (h : Offered known (s.itemsAt code) i k held) :
    addMissing ctx known (i :: rest) (supply, s) =
      (do let n ← addMissing ctx (i.canonicalKey :: known) rest; pure (k + n))
        (supply, s.refill code held) := by
  subst hcode
  have hadd := Service.addItem_of_up hup hactive hmenu hid
  cases h with
  | known hkey =>
    have hsame : addMissing ctx known rest = addMissing ctx (i.canonicalKey :: known) rest :=
      addMissing_congr fun key => by simp +contextual [hkey]
    rw [addMissing, if_pos (List.contains_iff_mem.2 hkey), hsame, Service.refill_itemsAt hmenu]
    simp only [Nat.zero_add, bind_pure]
  | taken hkey hlabel hin =>
    rw [if_neg (Bool.eq_false_iff.1 hlabel), if_pos hin] at hadd
    rw [addMissing_unknown hkey (update_apply _ _), hadd, Service.refill_itemsAt hmenu]
    rfl
  | added hkey hlabel hin =>
    rw [if_neg (Bool.eq_false_iff.1 hlabel), if_neg hin] at hadd
    rw [addMissing_unknown hkey (update_apply _ _), hadd]
    rfl

theorem addMissing_blank (hmenu : s.menus.contains (Text.key i.menuCode) = true)
    (hid : i.withId = i) (hkey : i.canonicalKey ∉ known) (hlabel : Text.blank i.label = true) :
    addMissing ctx known (i :: rest) (supply, s) =
      (.error (.invalid "label" "menu item label is required"), supply, s) := by
  have hadd := Service.addItem_of_up hup hactive hmenu hid
  rw [if_pos hlabel] at hadd
  rw [addMissing_unknown hkey (update_apply _ _), hadd]
  rfl

theorem addMissing_eq_ok_iff (hmenu : s.menus.contains code = true) (hfiled : Filed code items) :
    addMissing ctx known items (supply, s) = (.ok n, supply', t) ↔
      supply' = supply ∧ ∃ held, Adds known (s.itemsAt code) items n held ∧
        t = s.refill code held := by
  induction items generalizing known s n with
  | nil =>
    constructor
    · rintro ⟨⟩
      exact ⟨rfl, _, .done, (Service.refill_itemsAt hmenu).symm⟩
    · rintro ⟨rfl, held, ⟨⟩, rfl⟩
      rw [Service.refill_itemsAt hmenu]
      rfl
  | cons i rest ih =>
    obtain ⟨⟨hid, hcode⟩, hrest⟩ := List.forall_mem_cons.1 hfiled
    have hnext : ∀ {held m},
        addMissing ctx (i.canonicalKey :: known) rest (supply, s.refill code held) =
          (.ok m, supply', t) ↔ supply' = supply ∧ ∃ held',
            Adds (i.canonicalKey :: known) held rest m held' ∧ t = s.refill code held' := by
      intro held m
      rw [ih (s := s.refill code held) hup (Service.contains_refill s code held) hrest]
      simp only [Service.itemsAt_refill_self, Service.refill_refill]
    constructor
    · intro h
      rcases offered_or_blank known (s.itemsAt code) i with ⟨k, held, hi⟩ | ⟨hkey, hlabel⟩
      · rw [addMissing_offered hup hactive hmenu hid hcode hi] at h
        obtain ⟨m, hm, rfl⟩ := count_eq_ok_iff.1 h
        obtain ⟨rfl, held', hadds, rfl⟩ := hnext.1 hm
        exact ⟨rfl, held', .offered hi hadds, rfl⟩
      · subst hcode
        rw [addMissing_blank hup hactive hmenu hid hkey hlabel] at h
        cases h
    · rintro ⟨rfl, held', hadds, rfl⟩
      cases hadds with
      | offered hi hadds =>
        rw [addMissing_offered hup hactive hmenu hid hcode hi]
        exact count_eq_ok_iff.2 ⟨_, hnext.2 ⟨rfl, held', hadds, rfl⟩, rfl⟩

theorem present_of_contains (hmenu : s.menus.contains (Text.key code) = true) :
    present ctx code (supply, s) = (.ok (names (s.itemsAt (Text.key code))), supply, s) := by
  obtain ⟨m, -, hfind⟩ := Service.find_eq_ok hmenu
  have hget : s.getMenu ctx code = .ok m := by
    rw [Service.getMenu, Service.allow_of_up hup, Context.ensureActive_eq_ok.2 hactive, hfind]
    rfl
  have hasked : attempt (asks fun s => s.getMenu ctx code) (supply, s) = (.ok (.ok m), supply, s) := by
    rw [attempt, asks_apply, hget]
  rw [present, bind_apply_ok hasked, Service.itemsAt_eq_of_find hfind]
  rfl

theorem present_of_missing (hmenu : s.menus.contains (Text.key code) = false) :
    present ctx code (supply, s) =
      if Text.key code = "" then (.error (.invalid "code" "menu code is required"), supply, s)
      else (.ok [], supply, s.refill (Text.key code) []) := by
  have hget : s.getMenu ctx code = .error (.notFound "menu" code) := by
    rw [Service.getMenu, Service.allow_of_up hup, Context.ensureActive_eq_ok.2 hactive,
      Service.find_of_not_contains hmenu]
    rfl
  have hasked : attempt (asks fun s => s.getMenu ctx code) (supply, s) =
      (.ok (.error (.notFound "menu" code)), supply, s) := by
    rw [attempt, asks_apply, hget]
  have hcreate := Service.createMenu_of_up hup hactive hmenu
  rw [present, bind_apply_ok hasked]
  by_cases hempty : Text.key code = ""
  · rw [if_pos hempty] at hcreate ⊢
    refine Eq.trans (bind_apply_ok (a := .error (.invalid "code" "menu code is required")) ?_ _) rfl
    rw [attempt, update_apply, hcreate]
    rfl
  · rw [if_neg hempty] at hcreate ⊢
    refine Eq.trans (bind_apply_ok (a := .ok ()) ?_ _) rfl
    rw [attempt, update_apply, hcreate]
    rfl

omit hactive in
theorem present_eq_ok_iff {found : List String} :
    present ctx code (supply, s) = (.ok found, supply', t) ↔ supply' = supply ∧
      ctx.cancelled = false ∧ (s.menus.contains (Text.key code) = true ∨ Text.key code ≠ "") ∧
        found = names (s.itemsAt (Text.key code)) ∧
        t = s.refill (Text.key code) (s.itemsAt (Text.key code)) := by
  cases hctx : ctx.cancelled with
  | true =>
    have hget : s.getMenu ctx code = .error .cancelled := by
      rw [Service.getMenu, Service.allow_of_up hup, Context.ensureActive, hctx]
      rfl
    have hasked : attempt (asks fun s => s.getMenu ctx code) (supply, s) =
        (.ok (.error .cancelled), supply, s) := by
      rw [attempt, asks_apply, hget]
    rw [present, bind_apply_ok hasked]
    constructor
    · rintro ⟨⟩
    · rintro ⟨-, ⟨⟩, -⟩
  | false =>
    cases hmenu : s.menus.contains (Text.key code) with
    | true =>
      rw [present_of_contains hup hctx hmenu, Service.refill_itemsAt hmenu]
      constructor
      · rintro ⟨⟩
        exact ⟨rfl, rfl, .inl rfl, rfl, rfl⟩
      · rintro ⟨rfl, -, -, rfl, rfl⟩
        rfl
    | false =>
      rw [present_of_missing hup hctx hmenu, Service.itemsAt_of_not_contains hmenu]
      split
      · rename_i hempty
        constructor
        · rintro ⟨⟩
        · rintro ⟨-, -, h | hcode, -⟩
          · cases h
          · exact absurd hempty hcode
      · rename_i hcode
        constructor
        · rintro ⟨⟩
          exact ⟨rfl, rfl, .inr hcode, rfl, rfl⟩
        · rintro ⟨rfl, -, -, rfl, rfl⟩
          rfl

omit hactive in
theorem mergeMenu_eq_ok_iff (hcode : Text.key code = code) (hfiled : Filed code items) :
    (present ctx code >>= fun found => addMissing ctx found items) (supply, s) =
        (.ok n, supply', t) ↔
      supply' = supply ∧ ctx.cancelled = false ∧ (s.menus.contains code = true ∨ code ≠ "") ∧
        ∃ held, Adds (names (s.itemsAt code)) (s.itemsAt code) items n held ∧
          t = s.refill code held := by
  have hadded : ctx.cancelled = false → ∀ supply,
      addMissing ctx (names (s.itemsAt code)) items (supply, s.refill code (s.itemsAt code)) =
          (.ok n, supply', t) ↔
        supply' = supply ∧ ∃ held, Adds (names (s.itemsAt code)) (s.itemsAt code) items n held ∧
          t = s.refill code held := by
    intro hactive supply
    rw [addMissing_eq_ok_iff (s := s.refill code _) hup hactive
      (Service.contains_refill s code _) hfiled]
    simp only [Service.itemsAt_refill_self, Service.refill_refill]
  rw [bind_apply_eq_ok]
  constructor
  · rintro ⟨found, ⟨supply₁, s₁⟩, hfound, h⟩
    obtain ⟨rfl, hactive, hnamed, rfl, rfl⟩ := (present_eq_ok_iff hup).1 hfound
    rw [hcode] at hnamed h
    obtain ⟨rfl, hheld⟩ := (hadded hactive _).1 h
    exact ⟨rfl, hactive, hnamed, hheld⟩
  · rintro ⟨rfl, hactive, hnamed, hheld⟩
    refine ⟨_, _, (present_eq_ok_iff hup).2 ⟨rfl, hactive, hcode.symm ▸ hnamed, rfl, rfl⟩, ?_⟩
    rw [hcode]
    exact (hadded hactive _).2 ⟨rfl, hheld⟩

omit hactive in
theorem mergeMenus_eq_ok_iff {parts : List (String × List Menu.Item)}
    (hparts : ∀ part ∈ parts, Text.key part.1 = part.1 ∧ Filed part.1 part.2) :
    mergeMenus ctx parts (supply, s) = (.ok n, supply', t) ↔
      supply' = supply ∧ (parts = [] ∨ ctx.cancelled = false) ∧ s.Merges parts n t := by
  induction parts generalizing s n with
  | nil =>
    constructor
    · rintro ⟨⟩
      exact ⟨rfl, .inl rfl, .done⟩
    · rintro ⟨rfl, -, ⟨⟩⟩
      rfl
  | cons part rest ih =>
    obtain ⟨code, items⟩ := part
    obtain ⟨⟨hcode, hfiled⟩, hrest⟩ := List.forall_mem_cons.1 hparts
    have hsplit : mergeMenus ctx ((code, items) :: rest) =
        (present ctx code >>= fun found => addMissing ctx found items) >>= fun k =>
          mergeMenus ctx rest >>= fun m => pure (k + m) := by
      rw [bind_assoc]
      rfl
    rw [hsplit, bind_apply_eq_ok]
    constructor
    · rintro ⟨k, ⟨supply₁, s₁⟩, hmenu, h⟩
      obtain ⟨rfl, hactive, hnamed, held, hadds, rfl⟩ :=
        (mergeMenu_eq_ok_iff hup hcode hfiled).1 hmenu
      obtain ⟨m, hrun, rfl⟩ := count_eq_ok_iff.1 h
      obtain ⟨rfl, -, hmerges⟩ := (ih (s := s.refill code held) hup hrest).1 hrun
      exact ⟨rfl, .inr hactive, .menu hnamed hadds hmerges⟩
    · rintro ⟨rfl, hactive, hmerges⟩
      have hactive := hactive.resolve_left (List.cons_ne_nil _ _)
      cases hmerges with
      | menu hnamed hadds hmerges =>
        refine ⟨_, _, (mergeMenu_eq_ok_iff hup hcode hfiled).2
          ⟨rfl, hactive, hnamed, _, hadds, rfl⟩, ?_⟩
        refine count_eq_ok_iff.2 ⟨_, (ih (s := s.refill code _) hup hrest).2 ?_, rfl⟩
        exact ⟨rfl, .inr hactive, hmerges⟩

end Navigation
end Backoffice

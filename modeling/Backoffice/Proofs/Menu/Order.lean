import Backoffice.Menu
import Backoffice.Proofs.Sorting

namespace Backoffice.Menu

theorem le_length_wordHex (w : UInt32) : 8 ≤ (Digest.wordHex w).length := by
  simp only [Digest.wordHex, List.length_append, List.length_replicate]
  omega

theorem length_canonicalKey (code label : String) (target : Target) (parent : Option String) :
    (canonicalKey code label target parent).toList.length = keyLength := by
  simp only [canonicalKey, Digest.hex, String.toList_ofList, List.length_take]
  refine Nat.min_eq_left ?_
  simp only [List.flatMap_cons, List.flatMap_nil, List.length_append, keyLength]
  have hword := le_length_wordHex
  generalize Digest.sum (keyBytes code label target parent) = s
  have ha := hword s.a
  have hb := hword s.b
  have hc := hword s.c
  have hd := hword s.d
  omega

theorem canonicalKey_congr {code code' label label' : String} {target target' : Target}
    {parent parent' : Option String}
    (h : keyBytes code label target parent = keyBytes code' label' target' parent') :
    canonicalKey code label target parent = canonicalKey code' label' target' parent' := by
  rw [canonicalKey, h, canonicalKey]

namespace Item

def Ordered (items : List Item) : Prop := items.Pairwise fun a b => (order a b).isLE = true

def Distinct (items : List Item) : Prop := (items.map (·.id)).Nodup

variable {items items' : List Item} {a b c : Item} {p : Item → Bool}

instance : Std.TransCmp order :=
  inferInstanceAs (Std.TransCmp (compareLex (compareOn fun a => a.position.getD lastPosition)
    (compareLex (compareOn Item.label) (compareOn Item.id))))

theorem order_total (a b : Item) : ((order a b).isLE || (order b a).isLE) = true := by
  have hswap : order a b = (order b a).swap := Std.OrientedCmp.eq_swap
  cases h : order b a <;> simp [hswap, h]

theorem id_eq_of_order (hab : (order a b).isLE = true) (hba : (order b a).isLE = true) :
    a.id = b.id := by
  have heq : order a b = .eq := Std.OrientedCmp.isLE_antisymm hab hba
  rw [order, Ordering.then_eq_eq, Ordering.then_eq_eq] at heq
  exact Std.LawfulEqCmp.eq_of_compare heq.2.2

theorem Distinct.eq (h : Distinct items) (ha : a ∈ items) (hb : b ∈ items) (hid : a.id = b.id) :
    a = b := List.inj_on_of_nodup_map h ha hb hid

theorem Distinct.sublist (h : Distinct items) (hsub : items'.Sublist items) : Distinct items' :=
  List.Nodup.sublist (hsub.map _) h

theorem Distinct.perm (h : Distinct items) (hperm : items.Perm items') : Distinct items' :=
  (hperm.map _).nodup_iff.1 h

theorem Distinct.concat (h : Distinct items) (ha : ∀ i ∈ items, i.id ≠ a.id) :
    Distinct (items ++ [a]) := by
  rw [Distinct, List.map_append]
  refine List.Nodup.append h (List.nodup_singleton _) ?_
  simpa [List.disjoint_singleton] using ha

theorem Ordered.sublist (h : Ordered items) (hsub : items'.Sublist items) : Ordered items' :=
  List.Pairwise.sublist hsub h

theorem sort_perm (items : List Item) : (sort items).Perm items := List.mergeSort_perm _ _

theorem ordered_sort (items : List Item) : Ordered (sort items) :=
  @List.pairwise_mergeSort _ (fun a b => (order a b).isLE)
    (fun _ _ _ => Std.TransCmp.isLE_trans) order_total items

theorem mem_sort : a ∈ sort items ↔ a ∈ items := (sort_perm items).mem_iff

theorem sort_of_ordered (h : Ordered items) : sort items = items := List.mergeSort_of_pairwise h

theorem Ordered.eq_of_perm (h : Ordered items) (h' : Ordered items') (hdistinct : Distinct items)
    (hperm : items.Perm items') : items = items' := by
  refine List.Perm.eq_of_pairwise (fun a b ha hb hab hba => ?_) h h' hperm
  exact hdistinct.eq ha (hperm.mem_iff.2 hb) (id_eq_of_order hab hba)

theorem sort_congr (hdistinct : Distinct items) (hperm : items.Perm items') :
    sort items = sort items' := by
  have hsorted := (sort_perm items).trans (hperm.trans (sort_perm items').symm)
  exact (ordered_sort items).eq_of_perm (ordered_sort items')
    (hdistinct.perm (sort_perm items).symm) hsorted

theorem filter_congr (h : Ordered items) (h' : Ordered items') (hdistinct : Distinct items)
    (hdistinct' : Distinct items') (hsame : ∀ i, p i = true → (i ∈ items ↔ i ∈ items')) :
    items.filter p = items'.filter p := by
  have hsub := hdistinct.sublist (items.filter_sublist (p := p))
  have hsub' := hdistinct'.sublist (items'.filter_sublist (p := p))
  refine (h.sublist List.filter_sublist).eq_of_perm (h'.sublist List.filter_sublist) hsub ?_
  refine (List.perm_ext_iff_of_nodup hsub.of_map hsub'.of_map).2 fun i => ?_
  rw [List.mem_filter, List.mem_filter]
  exact and_congr_left (hsame i)

theorem find?_eq_none_iff {id : String} :
    items.find? (·.id == id) = none ↔ ¬∃ i ∈ items, i.id = id := by
  simp [List.find?_eq_none]

theorem Distinct.find? (h : Distinct items) (ha : a ∈ items) :
    items.find? (·.id == a.id) = some a := by
  obtain ⟨i, hi⟩ := Option.isSome_iff_exists.1
    (List.find?_isSome (p := fun i : Item => i.id == a.id).2 ⟨a, ha, beq_self_eq_true a.id⟩)
  have hid := List.find?_some hi
  rw [hi, h.eq (List.mem_of_find?_eq_some hi) ha (beq_iff_eq.1 hid)]

theorem Distinct.filter_id (h : Distinct items) (ha : a ∈ items) :
    items.filter (·.id == a.id) = [a] := by
  have hsame : ∀ i ∈ items, (i.id == a.id) = (i == a) := by
    intro i hi
    rw [Bool.eq_iff_iff, beq_iff_eq, beq_iff_eq]
    exact ⟨h.eq hi ha, congrArg _⟩
  rw [List.filter_congr hsame, List.filter_beq, List.count_eq_one_of_mem h.of_map ha,
    List.replicate_one]

def tied (a b : Item) : Bool := order a b == .eq

theorem tied_self (a : Item) : tied a a = true := beq_iff_eq.2 Std.ReflCmp.compare_self

theorem tied_of_order (hab : (order a b).isLE = true) (hba : (order b a).isLE = true) :
    tied a b = true := beq_iff_eq.2 (Std.OrientedCmp.isLE_antisymm hab hba)

theorem order_of_tied (h : tied a b = true) :
    (order a b).isLE = true ∧ (order b a).isLE = true := by
  have heq : order a b = .eq := beq_iff_eq.1 h
  have hswap : order b a = (order a b).swap := Std.OrientedCmp.eq_swap
  rw [hswap, heq]
  exact ⟨rfl, rfl⟩

theorem id_eq_of_tied (h : tied a b = true) : a.id = b.id :=
  id_eq_of_order (order_of_tied h).1 (order_of_tied h).2

theorem order_of_tied_both (ha : tied c a = true) (hb : tied c b = true) :
    (order a b).isLE = true :=
  Std.TransCmp.isLE_trans (order_of_tied ha).2 (order_of_tied hb).1

theorem filter_tied_sort (c : Item) (items : List Item) :
    (sort items).filter (tied c) = items.filter (tied c) :=
  filter_mergeSort (fun _ _ _ => Std.TransCmp.isLE_trans) order_total fun _ _ _ _ ha hb =>
    order_of_tied_both ha hb

theorem Ordered.eq_of_ties (h : Ordered items) (h' : Ordered items')
    (hties : ∀ c, items.filter (tied c) = items'.filter (tied c)) : items = items' := by
  induction items generalizing items' with
  | nil =>
    cases items' with
    | nil => rfl
    | cons b rest' => simpa [tied_self] using hties b
  | cons a rest ih =>
    have hmem : ∀ {c}, c ∈ a :: rest ↔ c ∈ items' := by
      intro c
      have hc := congrArg (c ∈ ·) (hties c)
      simpa [List.mem_filter, tied_self] using hc
    cases items' with
    | nil => simpa [tied_self] using hties a
    | cons b rest' =>
      obtain ⟨ha, hrest⟩ := List.pairwise_cons.1 h
      obtain ⟨hb, hrest'⟩ := List.pairwise_cons.1 h'
      have hab : (order a b).isLE = true := by
        rcases List.mem_cons.1 (hmem.2 List.mem_cons_self) with rfl | hmem
        · simp [beq_iff_eq.1 (tied_self b)]
        · exact ha b hmem
      have hba : (order b a).isLE = true := by
        rcases List.mem_cons.1 (hmem.1 List.mem_cons_self) with rfl | hmem
        · simp [beq_iff_eq.1 (tied_self a)]
        · exact hb a hmem
      have htied := tied_of_order hab hba
      have hhead := hties a
      rw [List.filter_cons_of_pos (tied_self a), List.filter_cons_of_pos htied] at hhead
      obtain ⟨rfl, -⟩ := List.cons.inj hhead
      rw [ih hrest hrest' fun c => ?_]
      have hc := hties c
      rw [List.filter_cons, List.filter_cons] at hc
      split at hc
      · exact (List.cons.inj hc).2
      · exact hc

theorem sort_concat_comm (h : a.id ≠ b.id) (items : List Item) :
    sort (sort (items ++ [a]) ++ [b]) = sort (sort (items ++ [b]) ++ [a]) := by
  refine (ordered_sort _).eq_of_ties (ordered_sort _) fun c => ?_
  simp only [filter_tied_sort, List.filter_append, List.append_assoc]
  -- at most one of the two comes to the place of `c`
  cases ha : tied c a with
  | false => simp [ha]
  | true =>
    have hb : tied c b = false :=
      Bool.eq_false_iff.2 fun hb => h ((id_eq_of_tied ha).symm.trans (id_eq_of_tied hb))
    simp [hb]

end Item

end Backoffice.Menu

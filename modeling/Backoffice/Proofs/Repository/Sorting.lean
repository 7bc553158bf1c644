import Backoffice.Proofs.Repository.Order
import Mathlib.Data.List.Induction

namespace Backoffice.Repository

/-- The same records in order, those that tie as they were. -/
structure SortedBy (cmp : Record → Record → Ordering) (records listed : List Record) : Prop where
  perm : listed.Perm records
  ordered : listed.Pairwise fun a b => (cmp a b).isLE = true
  stable : ∀ a ∈ records, listed.filter (cmp a · == .eq) = records.filter (cmp a · == .eq)

theorem sortedBy_refl (records : List Record) : SortedBy (fun _ _ => .eq) records records :=
  ⟨.refl records, List.pairwise_of_forall fun _ _ => rfl, fun _ _ => rfl⟩

variable {cmp : Record → Record → Ordering} {P : Record → Prop} {records sorted : List Record}
  {a x y : Record}

theorem insertBack_perm (lt : Record → Record → Bool) (x : Record) (sorted : List Record) :
    (insertBack lt x sorted).Perm (x :: sorted) := by
  induction sorted with
  | nil => exact .refl _
  | cons y rest ih =>
    unfold insertBack
    split
    · exact (ih.cons y).trans (.swap x y rest)
    · exact .refl _

theorem filter_insertBack {lt : Record → Record → Bool} {p : Record → Bool}
    (h : p x = true → ∀ y ∈ sorted, lt x y = true → p y = false) :
    (insertBack lt x sorted).filter p = (x :: sorted).filter p := by
  induction sorted with
  | nil => rfl
  | cons y rest ih =>
    unfold insertBack
    split
    · rename_i hlt
      rw [List.filter_cons, ih fun hx z hz => h hx z (List.mem_cons_of_mem y hz)]
      cases hx : p x with
      | true => simp [hx, h hx y List.mem_cons_self hlt]
      | false => simp [hx, List.filter_cons]
    · rfl

theorem sortRecords_concat (lt : Record → Record → Bool) (records : List Record) (x : Record) :
    (sortRecords lt (records ++ [x])).reverse = insertBack lt x (sortRecords lt records).reverse := by
  simp [sortRecords, List.foldl_append]

theorem sortRecords_perm (lt : Record → Record → Bool) (records : List Record) :
    (sortRecords lt records).Perm records := by
  induction records using List.reverseRecOn with
  | nil => exact .refl _
  | append_singleton records x ih =>
    refine (List.reverse_perm _).symm.trans ?_
    rw [sortRecords_concat]
    refine (insertBack_perm lt x _).trans ?_
    refine (((List.reverse_perm _).trans ih).cons x).trans ?_
    exact (List.perm_append_singleton x records).symm

variable [Std.OrientedCmp cmp]

theorem isLE_of_not_lt (h : ¬(cmp x y == .lt) = true) : (cmp y x).isLE = true := by
  have hswap : cmp y x = (cmp x y).swap := Std.OrientedCmp.eq_swap
  rw [hswap]
  revert h
  cases cmp x y <;> simp

theorem insertBack_ordered (htrans : TransitiveOn cmp P) (hx : P x) (hP : ∀ y ∈ sorted, P y)
    (h : sorted.Pairwise fun a b => (cmp b a).isLE = true) :
    (insertBack (fun a b => cmp a b == .lt) x sorted).Pairwise fun a b => (cmp b a).isLE = true := by
  induction sorted with
  | nil => exact List.pairwise_singleton _ x
  | cons y rest ih =>
    obtain ⟨hy, hrest⟩ := List.pairwise_cons.1 h
    have hPrest : ∀ z ∈ rest, P z := fun z hz => hP z (List.mem_cons_of_mem y hz)
    have hPy : P y := hP y List.mem_cons_self
    unfold insertBack
    split
    · rename_i hlt
      refine List.pairwise_cons.2 ⟨fun z hz => ?_, ih hPrest hrest⟩
      rcases List.mem_cons.1 ((insertBack_perm _ x rest).mem_iff.1 hz) with rfl | hz
      · rw [beq_iff_eq.1 hlt]
        rfl
      · exact hy z hz
    · rename_i hnot
      have hyx : (cmp y x).isLE = true := isLE_of_not_lt hnot
      refine List.pairwise_cons.2 ⟨fun z hz => ?_, h⟩
      rcases List.mem_cons.1 hz with rfl | hz
      · exact hyx
      · exact htrans z y x (hPrest z hz) hPy hx (hy z hz) hyx

theorem not_tied_of_lt (htrans : TransitiveOn cmp P) (ha : P a) (hx : P x) (hy : P y)
    (htie : (cmp a x == .eq) = true) (hlt : (cmp x y == .lt) = true) :
    (cmp a y == .eq) = false := by
  have hgt : cmp y x = .gt := Std.OrientedCmp.gt_of_lt (beq_iff_eq.1 hlt)
  refine beq_eq_false_iff_ne.2 fun heq => ?_
  have hya : cmp y a = .eq := Std.OrientedCmp.eq_symm heq
  have hle : (cmp y x).isLE = true :=
    htrans y a x hy ha hx (by rw [hya]; rfl) (by rw [beq_iff_eq.1 htie]; rfl)
  rw [hgt] at hle
  cases hle

theorem sortRecords_ordered (htrans : TransitiveOn cmp P) (hP : ∀ a ∈ records, P a) :
    (sortRecords (fun a b => cmp a b == .lt) records).Pairwise fun a b => (cmp a b).isLE = true := by
  rw [← List.pairwise_reverse]
  induction records using List.reverseRecOn with
  | nil => exact .nil
  | append_singleton records x ih =>
    rw [sortRecords_concat]
    have hrecords : ∀ a ∈ records, P a := fun a ha => hP a (List.mem_append_left _ ha)
    refine insertBack_ordered htrans (hP x (by simp)) (fun y hy => ?_) (ih hrecords)
    exact hrecords y ((sortRecords_perm _ records).mem_iff.1 (List.mem_reverse.1 hy))

theorem sortRecords_stable (htrans : TransitiveOn cmp P) (hP : ∀ a ∈ records, P a) (ha : P a) :
    (sortRecords (fun a b => cmp a b == .lt) records).filter (cmp a · == .eq) =
      records.filter (cmp a · == .eq) := by
  rw [← List.reverse_inj, ← List.filter_reverse]
  induction records using List.reverseRecOn with
  | nil => rfl
  | append_singleton records x ih =>
    have hrecords : ∀ a ∈ records, P a := fun a ha => hP a (List.mem_append_left _ ha)
    rw [sortRecords_concat, filter_insertBack, List.filter_cons, ih hrecords]
    · cases htie : cmp a x == .eq <;> simp [htie]
    · intro htie y hy
      have hPy : P y :=
        hrecords y ((sortRecords_perm _ records).mem_iff.1 (List.mem_reverse.1 hy))
      exact not_tied_of_lt htrans ha (hP x (by simp)) hPy htie

theorem sortedBy_sortRecords (htrans : TransitiveOn cmp (· ∈ records)) :
    SortedBy cmp records (sortRecords (fun a b => cmp a b == .lt) records) :=
  ⟨sortRecords_perm _ records, sortRecords_ordered htrans fun _ => id,
    fun _ => sortRecords_stable htrans fun _ => id⟩

end Backoffice.Repository

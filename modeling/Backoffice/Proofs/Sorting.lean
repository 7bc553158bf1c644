import Mathlib.Data.List.Nodup

namespace Backoffice

variable {α β : Type} {l : List α}

theorem filter_mergeSort {le : α → α → Bool}
    (htrans : ∀ a b c, le a b = true → le b c = true → le a c = true)
    (htotal : ∀ a b, (le a b || le b a) = true) {p : α → Bool}
    (htied : ∀ a ∈ l, ∀ b ∈ l, p a = true → p b = true → le a b = true) :
    (l.mergeSort le).filter p = l.filter p := by
  have hordered : (l.filter p).Pairwise fun a b => le a b = true := by
    refine List.pairwise_of_forall_mem_list fun a ha b hb => ?_
    exact htied a (List.mem_of_mem_filter ha) b (List.mem_of_mem_filter hb)
      (List.mem_filter.1 ha).2 (List.mem_filter.1 hb).2
  have hsub := (List.sublist_mergeSort htrans htotal hordered List.filter_sublist).filter p
  simp only [List.filter_filter, Bool.and_self] at hsub
  exact (hsub.eq_of_length ((List.mergeSort_perm l le).filter p).length_eq.symm).symm

theorem filter_append_filter_not {p : α → Bool}
    (h : l.Pairwise fun a b => p b = true → p a = true) :
    l.filter p ++ l.filter (fun a => !p a) = l := by
  induction l with
  | nil => rfl
  | cons a rest ih =>
    obtain ⟨hhead, hrest⟩ := List.pairwise_cons.1 h
    cases ha : p a with
    | true => simp [ha, ih hrest]
    | false =>
      have hnone : ∀ b ∈ rest, p b = false := fun b hb =>
        Bool.eq_false_iff.2 fun hp => by simp [hhead b hb hp] at ha
      have hp : rest.filter p = [] := by simpa [List.filter_eq_nil_iff] using hnone
      have hnot : rest.filter (fun a => !p a) = rest := by
        simpa [List.filter_eq_self] using hnone
      simp [ha, hp, hnot]

variable [BEq β] [LawfulBEq β] {f : α → β} {places : List β}

theorem eq_flatMap_of_pairwise_idxOf (hnodup : places.Nodup)
    (h : l.Pairwise fun a b => places.idxOf (f a) ≤ places.idxOf (f b)) :
    l = places.flatMap (fun k => l.filter (f · == k)) ++ l.filter (fun a => !places.contains (f a)) := by
  induction places generalizing l with
  | nil => simp
  | cons k rest ih =>
    obtain ⟨hk, hrest⟩ := List.nodup_cons.1 hnodup
    have hfront : l.filter (f · == k) ++ l.filter (fun a => !(f a == k)) = l := by
      refine filter_append_filter_not (h.imp fun {a b} hab hb => ?_)
      rw [beq_iff_eq.1 hb, List.idxOf_cons_self, Nat.le_zero, List.idxOf_cons] at hab
      by_contra hne
      have hka : (k == f a) = false := beq_eq_false_iff_ne.2 fun heq => hne (beq_iff_eq.2 heq.symm)
      simp [hka] at hab
    have hbehind : (l.filter fun a => !(f a == k)).Pairwise
        fun a b => rest.idxOf (f a) ≤ rest.idxOf (f b) := by
      refine (h.filter _).imp_of_mem fun {a b} ha hb hab => ?_
      have hne : ∀ {c}, c ∈ l.filter (fun a => !(f a == k)) → (k == f c) = false := fun hc =>
        beq_eq_false_iff_ne.2 (Ne.symm (by simpa using (List.mem_filter.1 hc).2))
      simpa [List.idxOf_cons, hne ha, hne hb] using hab
    have hnamed : ∀ k' ∈ rest, (l.filter fun a => !(f a == k)).filter (f · == k') =
        l.filter (f · == k') := by
      intro k' hk'
      rw [List.filter_filter]
      refine List.filter_congr fun a _ => ?_
      cases ha : f a == k' with
      | false => rfl
      | true =>
        have hne : f a ≠ k := fun heq => hk (heq ▸ beq_iff_eq.1 ha ▸ hk')
        simpa using hne
    have hothers : (l.filter fun a => !(f a == k)).filter (fun a => !rest.contains (f a)) =
        l.filter fun a => !(k :: rest).contains (f a) := by
      rw [List.filter_filter]
      refine List.filter_congr fun a _ => ?_
      simp [Bool.and_comm]
    conv_lhs => rw [← hfront, ih hrest hbehind, hothers, List.flatMap_congr hnamed]
    rw [List.flatMap_cons, List.append_assoc]

theorem mergeSort_idxOf (hnodup : places.Nodup) (f : α → β) (l : List α) :
    l.mergeSort (fun a b => decide (places.idxOf (f a) ≤ places.idxOf (f b))) =
      places.flatMap (fun k => l.filter (f · == k)) ++ l.filter (fun a => !places.contains (f a)) := by
  have htrans : ∀ a b c : α, decide (places.idxOf (f a) ≤ places.idxOf (f b)) = true →
      decide (places.idxOf (f b) ≤ places.idxOf (f c)) = true →
      decide (places.idxOf (f a) ≤ places.idxOf (f c)) = true := by
    simpa using fun a b c => Nat.le_trans
  have htotal : ∀ a b : α, (decide (places.idxOf (f a) ≤ places.idxOf (f b)) ||
      decide (places.idxOf (f b) ≤ places.idxOf (f a))) = true := by
    simpa using fun a b => Nat.le_total _ _
  have hsorted := List.pairwise_mergeSort htrans htotal l
  rw [eq_flatMap_of_pairwise_idxOf hnodup (hsorted.imp of_decide_eq_true)]
  congr 1
  · refine List.flatMap_congr fun k _ => filter_mergeSort htrans htotal fun a _ b _ ha hb => ?_
    rw [beq_iff_eq.1 ha, beq_iff_eq.1 hb]
    exact decide_eq_true (Nat.le_refl _)
  · refine filter_mergeSort htrans htotal fun a _ b _ ha hb => decide_eq_true (Nat.le_of_eq ?_)
    have hlast : ∀ {a}, (!places.contains (f a)) = true → places.idxOf (f a) = places.length :=
      fun h => List.idxOf_eq_length (by simpa using h)
    rw [hlast ha, hlast hb]

end Backoffice

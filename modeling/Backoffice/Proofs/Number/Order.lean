import Backoffice.Json.Basic
import Mathlib.Algebra.Order.Field.Basic
import Mathlib.Algebra.Order.Field.Rat

namespace Backoffice

namespace Binary64

def value (x : Binary64) : ℚ := x.signedRatio.1 / x.signedRatio.2

theorem signedRatio_pos (x : Binary64) : 0 < x.signedRatio.2 := by
  unfold signedRatio ratio
  dsimp only
  split
  · exact Nat.one_pos
  · exact Nat.pow_pos (by decide)

theorem cmp_eq_compare (x y : Binary64) : x.cmp y = compare x.value y.value := by
  have hx : (0 : ℚ) < x.signedRatio.2 := Nat.cast_pos.2 x.signedRatio_pos
  have hy : (0 : ℚ) < y.signedRatio.2 := Nat.cast_pos.2 y.signedRatio_pos
  unfold cmp value
  rcases lt_trichotomy (x.signedRatio.1 * (y.signedRatio.2 : ℤ))
    (y.signedRatio.1 * (x.signedRatio.2 : ℤ)) with h | h | h
  · rw [compare_lt_iff_lt.2 h, eq_comm, compare_lt_iff_lt, div_lt_div_iff₀ hx hy]
    exact_mod_cast h
  · rw [compare_eq_iff_eq.2 h, eq_comm, compare_eq_iff_eq, div_eq_div_iff hx.ne' hy.ne']
    exact_mod_cast h
  · rw [compare_gt_iff_gt.2 h, eq_comm, compare_gt_iff_gt, div_lt_div_iff₀ hy hx]
    exact_mod_cast h

end Binary64

def Numeric (cs : List Char) : Prop := ∀ c ∈ cs, c < 'f'

instance (cs : List Char) : Decidable (Numeric cs) := List.decidableBAll _ _

variable {cs ds : List Char}

theorem Numeric.append (hc : Numeric cs) (hd : Numeric ds) : Numeric (cs ++ ds) :=
  List.forall_mem_append.2 ⟨hc, hd⟩

theorem Numeric.sublist (hd : Numeric ds) (h : cs.Sublist ds) : Numeric cs :=
  fun c hc => hd c (h.subset hc)

theorem numeric_toDigits (n : Nat) : Numeric (Nat.toDigits 10 n) := by
  intro c hc
  have hdigit := Nat.isDigit_of_mem_toDigits (by decide) (by decide) hc
  simp only [Char.isDigit, Bool.and_eq_true, decide_eq_true_eq] at hdigit
  exact UInt32.lt_of_le_of_lt hdigit.2 (by decide)

theorem numeric_toString (n : Nat) : Numeric (toString n).toList := by
  rw [Nat.toString_eq_repr, Nat.repr, String.toList_ofList]
  exact numeric_toDigits n

namespace NumberLayout

theorem numeric_digitsOf (n : Nat) : Numeric (digitsOf n) := by
  refine (numeric_toDigits n).sublist ?_
  have hdropped := (List.dropWhile_sublist (l := (Nat.toDigits 10 n).reverse) (· == '0')).reverse
  rwa [List.reverse_reverse] at hdropped

theorem numeric_zeros (n : Nat) : Numeric (zeros n) := by
  intro c hc
  rw [(List.mem_replicate.1 hc).2]
  decide

variable {l : NumberLayout}

theorem numeric_positional (hl : Numeric l.wholeEnding.toList) (hd : Numeric ds) (point : Int) :
    Numeric (l.positional ds point).toList := by
  unfold positional
  dsimp only
  split
  · rw [String.toList_ofList]
    exact (Numeric.append (by decide) (numeric_zeros _)).append hd
  · split
    · rw [String.toList_append, String.toList_ofList]
      exact (hd.append (numeric_zeros _)).append hl
    · rw [String.toList_ofList]
      refine (hd.sublist (List.take_sublist _ _)).append (List.forall_mem_cons.2 ⟨by decide, ?_⟩)
      exact hd.sublist (List.drop_sublist _ _)

theorem numeric_scientific (hl : Numeric l.positiveMark.toList) (hd : Numeric ds) (point : Int) :
    Numeric (l.scientific ds point).toList := by
  have hmark : Numeric (if point < 0 then "-" else l.positiveMark).toList := by
    split
    · decide
    · exact hl
  simp only [scientific, String.toList_append, String.toList_ofList]
  refine Numeric.append (Numeric.append (Numeric.append (Numeric.append ?_ ?_) (by decide)) hmark)
    (numeric_toString _)
  · exact hd.sublist (List.take_sublist _ _)
  · split
    · decide
    · rw [String.toList_ofList]
      exact List.forall_mem_cons.2 ⟨by decide, hd.sublist (List.drop_sublist _ _)⟩

theorem numeric_write (hending : Numeric l.wholeEnding.toList)
    (hmark : Numeric l.positiveMark.toList) (x : Binary64) : Numeric (l.write x).toList := by
  unfold write
  rw [String.toList_append]
  refine Numeric.append ?_ ?_
  · split
    all_goals decide
  · split
    · rw [String.toList_append]
      exact Numeric.append (by decide) hending
    · dsimp only
      split
      · exact numeric_positional hending (numeric_digitsOf _) _
      · exact numeric_scientific hmark (numeric_digitsOf _) _

end NumberLayout

theorem Number.numeric_text (n : Number) : Numeric n.text.toList := by
  cases n with
  | whole n =>
    change Numeric n.repr.toList
    rw [Int.repr_eq_if]
    split
    · exact numeric_toString _
    · rw [String.toList_append]
      exact Numeric.append (by decide) (numeric_toString _)
  | real x => exact NumberLayout.numeric_write (by decide) (by decide) x

theorem Number.text_lt_truth (n : Number) (b : Bool) : n.text < if b then "true" else "false" := by
  have hnumeric := n.numeric_text
  rw [String.lt_iff]
  generalize n.text.toList = cs at hnumeric
  cases cs with
  | nil => cases b <;> exact List.nil_lt_cons _ _
  | cons c cs =>
    have hc : c < 'f' := hnumeric c List.mem_cons_self
    cases b with
    | false => exact List.cons_lt_cons_iff.2 (.inl hc)
    | true => exact List.cons_lt_cons_iff.2 (.inl (Char.lt_trans hc (by decide : 'f' < 't')))

end Backoffice

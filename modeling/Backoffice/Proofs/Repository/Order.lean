import Backoffice.Proofs.Number.Order
import Backoffice.Repository

/-!
The order that records are listed in.

A field is compared by value where both records hold a number, and by text else. Whatever the
records, one of two comes first or they tie; but strings come among numbers by text. Main statement:
records are ordered exactly if no string comes between two numbers whose values are in another order
than their texts (`ordering_iff`), so that 9, 10 and "5" go round in a circle (`circle_of_ranks`).
-/

namespace Backoffice

namespace Record

def number? (field : String) (r : Record) : Option Number :=
  match r.field? field with
  | some (.num n) => some n
  | _ => none

def HoldsString (field : String) (r : Record) : Prop := ∃ s, r.field? field = some (.str s)

def place (field : String) (r : Record) : ℕ × ℚ × String :=
  match r.field? field with
  | some (.num n) => (1, n.toBinary64.value, "")
  | some (.bool b) => (2, 0, if b then "true" else "false")
  | _ => (0, 0, "")

end Record

namespace Repository

variable {field : String} {a b c : Record} {m n : Number}

def ordering (field : String) (descending : Bool) (a b : Record) : Ordering :=
  if descending then (compareField field a b).swap else compareField field a b

/-- A comparison that can be followed from record to record. -/
def TransitiveOn (cmp : Record → Record → Ordering) (P : Record → Prop) : Prop :=
  ∀ a b c, P a → P b → P c → (cmp a b).isLE = true → (cmp b c).isLE = true → (cmp a c).isLE = true

def textOrdering (field : String) (a b : Record) : Ordering :=
  compare (a.textField? field) (b.textField? field)

instance (field : String) : Std.TransCmp (textOrdering field) :=
  inferInstanceAs (Std.TransCmp (compareOn fun r : Record => r.textField? field))

theorem textOrdering_eq (field : String) (a b : Record) :
    textOrdering field a b = match a.textField? field, b.textField? field with
      | none, none => .eq
      | none, some _ => .lt
      | some _, none => .gt
      | some s, some t => compare s t := by
  unfold textOrdering
  cases a.textField? field <;> cases b.textField? field <;> rfl

theorem field?_of_number? (h : a.number? field = some n) : a.field? field = some (.num n) := by
  unfold Record.number? at h
  split at h
  · cases h
    assumption
  · cases h

theorem compareField_of_numbers (ha : a.number? field = some m) (hb : b.number? field = some n) :
    compareField field a b = compare m.toBinary64.value n.toBinary64.value := by
  unfold compareField
  rw [field?_of_number? ha, field?_of_number? hb]
  exact Binary64.cmp_eq_compare _ _

theorem compareField_of_text (h : a.number? field = none ∨ b.number? field = none) :
    compareField field a b = textOrdering field a b := by
  rw [textOrdering_eq]
  unfold compareField
  split
  · rename_i ha hb
    simp [Record.number?, ha, hb] at h
  · rfl

theorem textOrdering_of_numbers (ha : a.number? field = some m) (hb : b.number? field = some n) :
    textOrdering field a b = compare m.text n.text := by
  rw [textOrdering, Record.textField?, Record.textField?, field?_of_number? ha,
    field?_of_number? hb]
  rfl

instance (field : String) : Std.OrientedCmp (compareField field) where
  eq_swap {a b} := by
    cases ha : a.number? field with
    | none =>
      rw [compareField_of_text (.inl ha), compareField_of_text (.inr ha)]
      exact Std.OrientedCmp.eq_swap
    | some m =>
      cases hb : b.number? field with
      | none =>
        rw [compareField_of_text (.inr hb), compareField_of_text (.inl hb)]
        exact Std.OrientedCmp.eq_swap
      | some n =>
        rw [compareField_of_numbers ha hb, compareField_of_numbers hb ha]
        exact Std.OrientedCmp.eq_swap

def Crossed (field : String) (a b : Record) : Prop :=
  ∃ m n, a.number? field = some m ∧ b.number? field = some n ∧
    compare m.toBinary64.value n.toBinary64.value ≠ compare m.text n.text

theorem crossed_iff : Crossed field a b ↔ compareField field a b ≠ textOrdering field a b := by
  constructor
  · rintro ⟨m, n, ha, hb, hne⟩
    rwa [compareField_of_numbers ha hb, textOrdering_of_numbers ha hb]
  · intro hne
    cases ha : a.number? field with
    | none => exact absurd (compareField_of_text (.inl ha)) hne
    | some m =>
      cases hb : b.number? field with
      | none => exact absurd (compareField_of_text (.inr hb)) hne
      | some n =>
        rw [compareField_of_numbers ha hb, textOrdering_of_numbers ha hb] at hne
        exact ⟨m, n, ha, hb, hne⟩

theorem not_crossed_iff : ¬Crossed field a b ↔ compareField field a b = textOrdering field a b := by
  rw [crossed_iff, not_not]

theorem number?_of_holdsString (h : a.HoldsString field) : a.number? field = none := by
  obtain ⟨s, hs⟩ := h
  rw [Record.number?, hs]

/-- The text of `c` comes before both or behind both. -/
def Apart (field : String) (c a b : Record) : Prop :=
  textOrdering field c a = textOrdering field c b ∧ textOrdering field c a ≠ .eq

def placeOrdering (field : String) : Record → Record → Ordering :=
  compareLex (compareOn fun r => (r.place field).1)
    (compareLex (compareOn fun r => (r.place field).2.1) (compareOn fun r => (r.place field).2.2))

instance (field : String) : Std.TransCmp (placeOrdering field) :=
  inferInstanceAs (Std.TransCmp (compareLex (compareOn fun r : Record => (r.place field).1)
    (compareLex (compareOn fun r => (r.place field).2.1) (compareOn fun r => (r.place field).2.2))))

theorem placeOrdering_eq (field : String) (a b : Record) : placeOrdering field a b =
    (compare (a.place field).1 (b.place field).1).then
      ((compare (a.place field).2.1 (b.place field).2.1).then
        (compare (a.place field).2.2 (b.place field).2.2)) := rfl

inductive Placed (field : String) (r : Record) : Prop
  | absent : r.number? field = none → r.textField? field = none → r.place field = (0, 0, "") →
      Placed field r
  | number (n : Number) : r.number? field = some n → r.textField? field = some n.text →
      r.place field = (1, n.toBinary64.value, "") → Placed field r
  | truth (b : Bool) : r.number? field = none →
      r.textField? field = some (if b then "true" else "false") →
      r.place field = (2, 0, if b then "true" else "false") → Placed field r

theorem placed_of_not_holdsString (h : ¬a.HoldsString field) : Placed field a := by
  have habsent (hnumber : a.number? field = none) (htext : a.textField? field = none)
      (hplace : a.place field = (0, 0, "")) : Placed field a := .absent hnumber htext hplace
  cases ha : a.field? field with
  | none => apply habsent <;> simp [Record.number?, Record.textField?, Record.place, ha]
  | some v =>
    cases v with
    | str s => exact absurd ⟨s, ha⟩ h
    | num n =>
      apply Placed.number n <;>
        simp [Record.number?, Record.textField?, Record.place, ha, Json.scalarText?]
    | bool b =>
      apply Placed.truth b
      · simp [Record.number?, ha]
      · cases b <;> simp [Record.textField?, ha, Json.scalarText?]
      · simp [Record.place, ha]
    | null | arr | obj =>
      apply habsent <;>
        simp [Record.number?, Record.textField?, Record.place, ha, Json.scalarText?]

theorem compareField_of_places (ha : ¬a.HoldsString field) (hb : ¬b.HoldsString field) :
    compareField field a b = placeOrdering field a b := by
  have hnumber (n : Number) (b : Bool) :
      compare n.text (if b then "true" else "false") = .lt :=
    compareOfLessAndEq_eq_lt.2 (n.text_lt_truth b)
  rw [placeOrdering_eq]
  cases placed_of_not_holdsString ha with
  | absent hna hta hpa =>
    rw [compareField_of_text (.inl hna), textOrdering, hta, hpa]
    cases placed_of_not_holdsString hb with
    | absent _ htb hpb | number _ _ htb hpb | truth _ _ htb hpb =>
      rw [htb, hpb]
      rfl
  | number m hna hta hpa =>
    cases placed_of_not_holdsString hb with
    | absent hnb htb hpb =>
      rw [compareField_of_text (.inr hnb), textOrdering, hta, hpa, htb, hpb]
      rfl
    | number n hnb _ hpb =>
      rw [compareField_of_numbers hna hnb, hpa, hpb]
      simp
    | truth y hnb htb hpb =>
      rw [compareField_of_text (.inr hnb), textOrdering, hta, hpa, htb, hpb]
      exact hnumber m y
  | truth x hna hta hpa =>
    rw [compareField_of_text (.inl hna), textOrdering, hta, hpa]
    cases placed_of_not_holdsString hb with
    | absent _ htb hpb =>
      rw [htb, hpb]
      rfl
    | number n _ htb hpb =>
      rw [htb, hpb]
      exact Std.OrientedCmp.gt_of_lt (hnumber n x)
    | truth y _ htb hpb =>
      rw [htb, hpb]
      simp
      rfl

theorem compareField_of_holdsString_left (h : a.HoldsString field) :
    compareField field a b = textOrdering field a b :=
  compareField_of_text (.inl (number?_of_holdsString h))

theorem compareField_of_holdsString_right (h : b.HoldsString field) :
    compareField field a b = textOrdering field a b :=
  compareField_of_text (.inr (number?_of_holdsString h))

theorem isLE_trans_of_text (hab : compareField field a b = textOrdering field a b)
    (hbc : compareField field b c = textOrdering field b c)
    (hac : compareField field a c = textOrdering field a c)
    (hle : (compareField field a b).isLE = true) (hle' : (compareField field b c).isLE = true) :
    (compareField field a c).isLE = true := by
  rw [hab] at hle
  rw [hbc] at hle'
  rw [hac]
  exact Std.TransCmp.isLE_trans hle hle'

variable {P : Record → Prop}

theorem transitiveOn_of_apart
    (h : ∀ a b c, P a → P b → P c → Crossed field a b → c.HoldsString field → Apart field c a b) :
    TransitiveOn (compareField field) P := by
  intro a b c ha hb hc hab hbc
  have hswap (a b : Record) : textOrdering field b a = (textOrdering field a b).swap :=
    Std.OrientedCmp.eq_swap
  -- a string is compared by text, so that only the two others can be crossed
  by_cases hsa : a.HoldsString field
  · have htab : compareField field a b = _ := compareField_of_holdsString_left hsa
    have htac : compareField field a c = _ := compareField_of_holdsString_left hsa
    by_cases hcross : Crossed field b c
    · rwa [htac, ← (h b c a hb hc ha hcross hsa).1, ← htab]
    · exact isLE_trans_of_text htab (not_crossed_iff.1 hcross) htac hab hbc
  by_cases hsb : b.HoldsString field
  · have htab : compareField field a b = _ := compareField_of_holdsString_right hsb
    have htbc : compareField field b c = _ := compareField_of_holdsString_left hsb
    by_cases hcross : Crossed field a c
    · obtain ⟨hsame, hne⟩ := h a c b ha hc hb hcross hsb
      rw [htab, hswap b a] at hab
      rw [htbc, ← hsame] at hbc
      revert hab hbc hne
      cases textOrdering field b a <;> simp
    · exact isLE_trans_of_text htab htbc (not_crossed_iff.1 hcross) hab hbc
  by_cases hsc : c.HoldsString field
  · have htbc : compareField field b c = _ := compareField_of_holdsString_right hsc
    have htac : compareField field a c = _ := compareField_of_holdsString_right hsc
    by_cases hcross : Crossed field a b
    · rwa [htac, hswap c a, (h a b c ha hb hc hcross hsc).1, ← hswap c b, ← htbc]
    · exact isLE_trans_of_text (not_crossed_iff.1 hcross) htbc htac hab hbc
  rw [compareField_of_places hsa hsb] at hab
  rw [compareField_of_places hsb hsc] at hbc
  rw [compareField_of_places hsa hsc]
  exact Std.TransCmp.isLE_trans hab hbc

theorem compare_of_between {α : Type} {f : α → α → Ordering} [Std.TransCmp f] {a b c : α}
    (h : ¬(f c a = f c b ∧ f c a ≠ .eq)) : f a b = (f c a).swap.then (f c b) := by
  have hac : f a c = (f c a).swap := Std.OrientedCmp.eq_swap
  cases hca : f c a with
  | eq => exact (Std.TransCmp.congr_left hca).symm
  | lt =>
    rw [hca] at hac
    cases hcb : f c b with
    | lt => simp [hca, hcb] at h
    | eq => exact (Std.TransCmp.congr_right hcb).symm.trans hac
    | gt => exact Std.TransCmp.gt_trans hac hcb
  | gt =>
    rw [hca] at hac
    cases hcb : f c b with
    | lt => exact Std.TransCmp.lt_trans hac hcb
    | eq => exact (Std.TransCmp.congr_right hcb).symm.trans hac
    | gt => simp [hca, hcb] at h

theorem apart_of_transitiveOn (h : TransitiveOn (compareField field) P) (ha : P a) (hb : P b)
    (hc : P c) (hcross : Crossed field a b) (hs : c.HoldsString field) : Apart field c a b := by
  by_contra hapart
  have : Std.TransCmp fun a b : {r // P r} => compareField field a b :=
    { eq_swap := Std.OrientedCmp.eq_swap
      isLE_trans := fun {a b c} => h a b c a.2 b.2 c.2 }
  have hca : compareField field c a = textOrdering field c a := compareField_of_holdsString_left hs
  have hcb : compareField field c b = textOrdering field c b := compareField_of_holdsString_left hs
  have htexts : textOrdering field a b =
      (textOrdering field c a).swap.then (textOrdering field c b) := compare_of_between hapart
  have hvalues : compareField field a b =
      (compareField field c a).swap.then (compareField field c b) := by
    refine compare_of_between (f := fun a b : {r // P r} => compareField field a b)
      (a := ⟨a, ha⟩) (b := ⟨b, hb⟩) (c := ⟨c, hc⟩) ?_
    rwa [hca, hcb]
  exact crossed_iff.1 hcross (by rw [hvalues, htexts, hca, hcb])

instance (field : String) (descending : Bool) : Std.OrientedCmp (ordering field descending) where
  eq_swap {a b} := by
    have hswap : compareField field a b = (compareField field b a).swap := Std.OrientedCmp.eq_swap
    unfold ordering
    rw [hswap]
    split <;> simp

theorem ordering_backwards (field : String) (a b : Record) :
    ordering field true a b = compareField field b a := Std.OrientedCmp.eq_swap.symm

theorem transitiveOn_ordering_iff {descending : Bool} :
    TransitiveOn (ordering field descending) P ↔ TransitiveOn (compareField field) P := by
  cases descending with
  | false => rfl
  | true =>
    simp only [TransitiveOn, ordering_backwards]
    exact ⟨fun h a b c ha hb hc hab hbc => h c b a hc hb ha hbc hab,
      fun h a b c ha hb hc hab hbc => h c b a hc hb ha hbc hab⟩

/-- Whatever the records, one of two comes first or they tie. They are in order exactly if no string
comes between two numbers whose values are in another order than their texts. -/
theorem ordering_iff (field : String) (descending : Bool) :
    Std.OrientedCmp (ordering field descending) ∧
      ∀ P : Record → Prop, TransitiveOn (ordering field descending) P ↔
        ∀ a b c, P a → P b → P c → Crossed field a b → c.HoldsString field →
          Apart field c a b := by
  refine ⟨inferInstance, fun P => ?_⟩
  rw [transitiveOn_ordering_iff]
  constructor
  · intro h a b c ha hb hc hcross hs
    exact apart_of_transitiveOn h ha hb hc hcross hs
  · intro h
    exact transitiveOn_of_apart h

def ranked (rank : Json) : Record := [("rank", rank)]

/-- Nine comes before ten by value, ten before "5" by text, and "5" before nine by text. -/
theorem circle_of_ranks :
    let nine := ranked (.num (.whole 9))
    let ten := ranked (.num (.whole 10))
    let five := ranked (.str "5")
    (ordering "rank" false nine ten = .lt ∧ ordering "rank" false ten five = .lt ∧
      ordering "rank" false five nine = .lt) ∧
      ∀ descending, ¬TransitiveOn (ordering "rank" descending) fun _ => True := by
  intro nine ten five
  have hnine : ordering "rank" false nine ten = .lt := by decide
  have hten : ordering "rank" false ten five = .lt := by decide +kernel
  have hfive : ordering "rank" false five nine = .lt := by decide +kernel
  refine ⟨⟨hnine, hten, hfive⟩, fun descending h => ?_⟩
  have hle := transitiveOn_ordering_iff.1 h nine ten five trivial trivial trivial
    (congrArg Ordering.isLE hnine) (congrArg Ordering.isLE hten)
  have hgt : ordering "rank" false nine five = .gt := Std.OrientedCmp.gt_of_lt hfive
  rw [ordering, if_neg (by decide)] at hgt
  rw [hgt] at hle
  cases hle

end Repository

end Backoffice

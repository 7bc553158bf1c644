import Backoffice.Json.Parser
import Backoffice.Proofs.Dict

namespace Backoffice

namespace Json

/-- The members of every object in the value ascend by key. -/
inductive Ordered : Json → Prop
  | null : Ordered .null
  | bool (b : Bool) : Ordered (.bool b)
  | num (n : Number) : Ordered (.num n)
  | str (s : String) : Ordered (.str s)
  | arr {items : List Json} : (∀ v ∈ items, Ordered v) → Ordered (.arr items)
  | obj {fields : Record} :
      Entries.Sorted fields → (∀ e ∈ fields, Ordered e.2) → Ordered (.obj fields)

theorem Ordered.sorted {fields : Record} (h : Ordered (.obj fields)) : Entries.Sorted fields := by
  cases h with
  | obj hsorted _ => exact hsorted

theorem Ordered.get? {v w : Json} {k : String} (h : Ordered v) (hw : v.get? k = some w) :
    Ordered w := by
  cases h with
  | obj hsorted hmembers => exact hmembers _ ((Entries.get?_eq_some_iff hsorted).1 hw)
  | _ => cases hw

mutual

theorem ordered_tidy (v : Json) : v.tidy.Ordered := by
  cases v with
  | null => exact .null
  | bool b => exact .bool b
  | num n => exact .num n
  | str s => exact .str s
  | arr items => exact .arr (ordered_tidyItems items)
  | obj fields =>
    refine .obj (Entries.sorted_ofList _) fun e he => ?_
    exact ordered_tidyFields fields e (Entries.mem_ofList he)

theorem ordered_tidyItems (items : List Json) : ∀ v ∈ tidyItems items, v.Ordered := by
  cases items with
  | nil => simp [tidyItems]
  | cons item rest =>
    rw [tidyItems, List.forall_mem_cons]
    exact ⟨ordered_tidy item, ordered_tidyItems rest⟩

theorem ordered_tidyFields (fields : Record) : ∀ e ∈ tidyFields fields, e.2.Ordered := by
  cases fields with
  | nil => simp [tidyFields]
  | cons field rest =>
    obtain ⟨k, v⟩ := field
    rw [tidyFields, List.forall_mem_cons]
    exact ⟨ordered_tidy v, ordered_tidyFields rest⟩

end

theorem ordered_of_parse? {s : String} {v : Json} (h : parse? s = some v) : v.Ordered := by
  obtain ⟨⟨w, rest⟩, -, hw⟩ := Option.bind_eq_some_iff.1 h
  dsimp only at hw
  split at hw
  · cases hw
    exact ordered_tidy w
  · cases hw

end Json

end Backoffice

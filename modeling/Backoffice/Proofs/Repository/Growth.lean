import Backoffice.Proofs.Call
import Backoffice.Proofs.Dict
import Backoffice.Repository
import Mathlib.Algebra.Group.Nat.Defs

namespace Backoffice

theorem Record.field?_merge (r patch : Record) (k : String) :
    (r.merge patch).field? k =
      ((patch.filter (·.1 == k)).getLast?.map (·.2)).or (r.field? k) := by
  induction patch generalizing r with
  | nil => rfl
  | cons e patch ih =>
    obtain ⟨j, v⟩ := e
    have hmerge : r.merge ((j, v) :: patch) = merge (Entries.set j v r) patch := rfl
    rw [hmerge, ih]
    by_cases hj : j = k
    · rw [List.filter_cons_of_pos (by simpa using hj), List.getLast?_cons, field?, hj,
        Entries.get?_set_self]
      cases (patch.filter (·.1 == k)).getLast? <;> rfl
    · rw [List.filter_cons_of_neg (by simpa using hj), field?, Entries.get?_set_ne (Ne.symm hj)]
      rfl

namespace Repository

theorem get_eq_ok {r : Repository} {ctx : Context} {id : String} {record : Record}
    (h : r.get ctx id = .ok record) : r.records.get? id = some record := by
  obtain ⟨_, -, h⟩ := bind_eq_ok.1 h
  split at h
  · cases h
    assumption
  · cases h

/-- Made from a new repository by settings of its page size and calls that did not fail. -/
inductive Grown : Repository → Prop
  | new (resource : String) : Grown (.new resource)
  | withPageSize {r : Repository} {size : Nat} : Grown r → size < 2 ^ 32 → Grown (r.withPageSize size)
  | create {r r' : Repository} {ctx : Context} {fresh : String} {record created : Record} :
      Grown r → r.create ctx fresh record = .ok (created, r') → Grown r'
  | update {r r' : Repository} {ctx : Context} {id : String} {patch updated : Record} :
      Grown r → r.update ctx id patch = .ok (updated, r') → Grown r'
  | delete {r r' : Repository} {ctx : Context} {id : String} :
      Grown r → r.delete ctx id = .ok r' → Grown r'

def Keyed (records : Dict Record) : Prop :=
  ∀ id record, records.get? id = some record → record.id? = some id

variable {r r' : Repository} {records : Dict Record} {id : String} {record : Record}

theorem keyed_empty : Keyed .empty := fun _ _ h => by cases h

theorem Keyed.set (h : Keyed records) (hid : record.id? = some id) :
    Keyed (records.set id record) := by
  intro id' record' hget
  rw [Dict.get?_set] at hget
  split at hget
  · rename_i hsame
    cases hget
    rw [hsame, hid]
  · exact h id' record' hget

theorem Keyed.erase (h : Keyed records) : Keyed (records.erase id) := by
  intro id' record' hget
  rw [Dict.get?_erase] at hget
  split at hget
  · cases hget
  · exact h id' record' hget

theorem id?_set_id (record : Record) : Record.id? (Entries.set "id" (.str id) record) = some id := by
  rw [Record.id?, Record.textField?, Record.field?, Entries.get?_set_self]
  rfl

theorem id?_merge (record patch : Record) :
    (record.merge (patch.filter fun e => e.1 != "id")).id? = record.id? := by
  have hnone : (patch.filter fun e => e.1 != "id").filter (·.1 == "id") = [] := by
    simp
  rw [Record.id?, Record.textField?, Record.field?_merge, hnone]
  rfl

structure Kept (r : Repository) : Prop where
  keyed : Keyed r.records
  positive : 0 < r.defaultPerPage
  bounded : r.defaultPerPage < 2 ^ 32

theorem kept_new (resource : String) : (new resource).Kept :=
  ⟨keyed_empty, show 0 < 25 by decide, show 25 < 2 ^ 32 by decide⟩

theorem kept_withPageSize (h : r.Kept) {size : Nat} (hsize : size < 2 ^ 32) :
    (r.withPageSize size).Kept := by
  refine ⟨h.keyed, ?_, ?_⟩ <;> simp only [withPageSize] <;> omega

theorem kept_create (h : r.Kept) {ctx : Context} {fresh : String} {created : Record}
    (hcreate : r.create ctx fresh record = .ok (created, r')) : r'.Kept := by
  obtain ⟨_, -, hcreate⟩ := bind_eq_ok.1 hcreate
  obtain ⟨-, hcreate⟩ := refuse_eq_ok.1 hcreate
  cases hcreate
  exact ⟨h.keyed.set (id?_set_id record), h.positive, h.bounded⟩

theorem kept_update (h : r.Kept) {ctx : Context} {patch updated : Record}
    (hupdate : r.update ctx id patch = .ok (updated, r')) : r'.Kept := by
  obtain ⟨stored, hget, hupdate⟩ := bind_eq_ok.1 hupdate
  cases hupdate
  have hid : stored.id? = some id := h.keyed id stored (get_eq_ok hget)
  exact ⟨h.keyed.set (by rw [id?_merge, hid]), h.positive, h.bounded⟩

theorem kept_delete (h : r.Kept) {ctx : Context} (hdelete : r.delete ctx id = .ok r') : r'.Kept := by
  obtain ⟨_, -, hdelete⟩ := bind_eq_ok.1 hdelete
  cases hdelete
  exact ⟨h.keyed.erase, h.positive, h.bounded⟩

theorem Grown.kept (h : r.Grown) : r.Kept := by
  induction h with
  | new resource => exact kept_new resource
  | withPageSize _ hsize ih => exact kept_withPageSize ih hsize
  | create _ hcreate ih => exact kept_create ih hcreate
  | update _ hupdate ih => exact kept_update ih hupdate
  | delete _ hdelete ih => exact kept_delete ih hdelete

end Repository

end Backoffice

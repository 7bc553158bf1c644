import Backoffice.Dict

namespace Backoffice

universe u

variable {α : Type u}

theorem Entries.get?_eq_some_iff {es : List (String × α)} (hs : Entries.Sorted es) {k : String}
    {v : α} : Entries.get? k es = some v ↔ (k, v) ∈ es := by
  induction es with
  | nil => simp
  | cons e rest ih =>
    obtain ⟨k', v'⟩ := e
    have hrest : Entries.Sorted rest := (List.pairwise_cons.1 hs).2
    have hhead : ∀ e ∈ rest, k' < e.1 := (List.pairwise_cons.1 hs).1
    by_cases hk : k' = k
    · subst hk
      have habsent : (k', v) ∉ rest := fun h => String.lt_irrefl k' (hhead _ h)
      simp [Entries.get?, habsent, eq_comm]
    · simp [Entries.get?, hk, ih hrest, Ne.symm hk]

theorem Entries.isSome_get?_iff {k : String} {es : List (String × α)} :
    (get? k es).isSome = true ↔ k ∈ es.map (·.1) := by
  induction es with
  | nil => simp
  | cons e rest ih =>
    by_cases h : e.1 = k
    · simp [get?, h]
    · simp [get?, h, ih, Ne.symm h]

theorem Entries.get?_set (k j : String) (v : α) (es : List (String × α)) :
    get? j (set k v es) = if j = k then some v else get? j es := by
  split
  · rename_i h
    rw [h, get?_set_self]
  · rename_i h
    rw [get?_set_ne h]

theorem Entries.set_set (k : String) (v w : α) (es : List (String × α)) :
    set k v (set k w es) = set k v es := by
  induction es with
  | nil => simp [set]
  | cons e rest ih =>
    obtain ⟨k', v'⟩ := e
    by_cases hlt : k < k'
    · simp [set, hlt]
    · by_cases heq : k = k'
      · subst heq
        simp [set]
      · simp [set, hlt, heq, ih]

def Entries.setAll (es acc : List (String × α)) : List (String × α) :=
  es.foldl (fun acc e => set e.1 e.2 acc) acc

theorem Entries.setAll_append (es fs acc : List (String × α)) :
    setAll (es ++ fs) acc = setAll fs (setAll es acc) := List.foldl_append

theorem Entries.Sorted.setAll {acc : List (String × α)} (h : Sorted acc)
    (es : List (String × α)) : Sorted (setAll es acc) := by
  induction es generalizing acc with
  | nil => exact h
  | cons e es ih => exact ih (h.set e.1 e.2)

theorem Entries.get?_setAll (k : String) (es acc : List (String × α)) :
    get? k (setAll es acc) =
      (((es.filter (·.1 == k)).getLast?).map (·.2)).or (get? k acc) := by
  induction es generalizing acc with
  | nil => rfl
  | cons e rest ih =>
    have hcons : setAll (e :: rest) acc = setAll rest (set e.1 e.2 acc) := rfl
    rw [hcons, ih, get?_set]
    by_cases hk : e.1 = k
    · rw [List.filter_cons_of_pos (by simpa using hk), List.getLast?_cons, if_pos hk.symm]
      cases (rest.filter (·.1 == k)).getLast? <;> rfl
    · rw [List.filter_cons_of_neg (by simpa using hk), if_neg (Ne.symm hk)]

theorem Entries.get?_ofList (es : List (String × α)) (k : String) :
    get? k (ofList es) = ((es.filter (·.1 == k)).getLast?).map (·.2) :=
  (get?_setAll k es []).trans Option.or_none

@[simp] theorem Entries.get?_ofList_nil (k : String) :
    get? k (ofList ([] : List (String × α))) = none := rfl

theorem Entries.get?_ofList_append (es fs : List (String × α)) (k : String) :
    get? k (ofList (es ++ fs)) = (get? k (ofList fs)).or (get? k (ofList es)) := by
  simp only [get?_ofList, List.filter_append, List.getLast?_append, Option.map_or]

theorem Entries.get?_ofList_cons (e : String × α) (es : List (String × α)) (k : String) :
    get? k (ofList (e :: es)) = (get? k (ofList es)).or (if e.1 = k then some e.2 else none) := by
  rw [← List.singleton_append, get?_ofList_append]
  rfl

theorem Entries.set_ne_nil (k : String) (v : α) (es : List (String × α)) :
    Entries.set k v es ≠ [] := by
  cases es with
  | nil => simp [Entries.set]
  | cons e rest =>
    unfold Entries.set
    repeat' split
    all_goals simp

theorem Entries.eq_of_get? {es es' : List (String × α)} (hs : Entries.Sorted es)
    (hs' : Entries.Sorted es') (h : ∀ k, get? k es = get? k es') : es = es' := by
  have hdistinct : ∀ {es : List (String × α)}, Entries.Sorted es → es.Nodup := by
    refine fun hs => List.Pairwise.imp (fun {a b} hlt heq => ?_) hs
    exact String.lt_irrefl a.1 (Eq.subst (motive := fun e => a.1 < e.1) heq.symm hlt)
  have hperm : es.Perm es' := by
    refine (List.perm_ext_iff_of_nodup (hdistinct hs) (hdistinct hs')).2 fun ⟨k, v⟩ => ?_
    rw [← get?_eq_some_iff hs, ← get?_eq_some_iff hs', h]
  refine List.Perm.eq_of_pairwise (fun a b _ _ hab hba => ?_) hs hs' hperm
  exact absurd (String.lt_trans hab hba) (String.lt_irrefl _)

namespace Dict

theorem ext_get? {d e : Dict α} (h : ∀ k, d.get? k = e.get? k) : d = e := by
  obtain ⟨es, hs⟩ := d
  obtain ⟨es', hs'⟩ := e
  obtain rfl : es = es' := Entries.eq_of_get? hs hs' h
  rfl

theorem get?_set (d : Dict α) (k j : String) (v : α) :
    (d.set k v).get? j = if j = k then some v else d.get? j := Entries.get?_set k j v d.entries

theorem get?_erase (d : Dict α) (k j : String) :
    (d.erase k).get? j = if j = k then none else d.get? j := by
  split
  · rename_i h
    rw [h, get?_erase_self]
  · rename_i h
    rw [get?_erase_ne d h]

theorem erase_of_get?_eq_none {d : Dict α} {k : String} (h : d.get? k = none) : d.erase k = d := by
  refine ext_get? fun j => ?_
  rw [get?_erase]
  split
  · rename_i hj
    rw [hj, h]
  · rfl

theorem set_get? {d : Dict α} {k : String} {v : α} (h : d.get? k = some v) : d.set k v = d := by
  refine ext_get? fun j => ?_
  rw [get?_set]
  split
  · rename_i hj
    rw [hj, h]
  · rfl

@[simp] theorem set_set (d : Dict α) (k : String) (v w : α) :
    (d.set k v).set k w = d.set k w := by
  refine ext_get? fun j => ?_
  simp only [get?_set]
  split <;> rfl

theorem set_comm (d : Dict α) {k l : String} (h : k ≠ l) (v w : α) :
    (d.set k v).set l w = (d.set l w).set k v := by
  refine ext_get? fun j => ?_
  simp only [get?_set]
  split
  · rename_i hj
    rw [if_neg (hj ▸ Ne.symm h)]
  · rfl

theorem contains_eq_false_iff (d : Dict α) (k : String) :
    d.contains k = false ↔ d.get? k = none := by
  simp [contains]

theorem mem_keys {d : Dict α} {k : String} {v : α} (h : d.get? k = some v) : k ∈ d.keys :=
  List.mem_map_of_mem (f := Prod.fst) ((Entries.get?_eq_some_iff d.sorted).1 h)

theorem mem_keys_iff {d : Dict α} {k : String} : k ∈ d.keys ↔ (d.get? k).isSome = true :=
  Entries.isSome_get?_iff.symm

theorem pairwise_keys (d : Dict α) : d.keys.Pairwise (· < ·) := List.pairwise_map.2 d.sorted

theorem nodup_keys (d : Dict α) : d.keys.Nodup := by
  refine d.pairwise_keys.imp fun hlt heq => ?_
  rw [heq] at hlt
  exact String.lt_irrefl _ hlt

theorem keys_congr {d e : Dict α} (h : ∀ k, k ∈ d.keys ↔ k ∈ e.keys) : d.keys = e.keys := by
  refine List.Perm.eq_of_pairwise (fun a b _ _ hab hba => ?_) d.pairwise_keys e.pairwise_keys
    ((List.perm_ext_iff_of_nodup d.nodup_keys e.nodup_keys).2 h)
  exact absurd (String.lt_trans hab hba) (String.lt_irrefl _)

theorem mem_values_iff (d : Dict α) (v : α) : v ∈ d.values ↔ ∃ k, d.get? k = some v := by
  simp only [values, List.mem_map, get?, Entries.get?_eq_some_iff d.sorted, Prod.exists,
    exists_eq_right]

theorem entries_ofList (es : List (String × α)) : (ofList es).entries = Entries.ofList es := by
  suffices h : ∀ d : Dict α, (es.foldl (fun d e => d.set e.1 e.2) d).entries =
      es.foldl (fun acc e => Entries.set e.1 e.2 acc) d.entries from h empty
  induction es with
  | nil => exact fun d => rfl
  | cons e rest ih => exact fun d => ih (d.set e.1 e.2)

theorem get?_ofList (es : List (String × α)) (k : String) :
    (ofList es).get? k = ((es.filter (·.1 == k)).getLast?).map (·.2) := by
  rw [get?, entries_ofList, Entries.get?_ofList]

theorem get?_ofList_eq_some_iff {es : List (String × α)} {k : String} {v : α}
    (h : (es.map (·.1)).Nodup) :
    (ofList es).get? k = some v ↔ (k, v) ∈ es := by
  rw [get?, entries_ofList]
  induction es generalizing v with
  | nil => simp
  | cons e es ih =>
    obtain ⟨hhead, hrest⟩ := List.nodup_cons.1 h
    rw [Entries.get?_ofList_cons, List.mem_cons]
    by_cases hk : e.1 = k
    · subst hk
      have habsent : ∀ w, (e.1, w) ∉ es := fun w hw =>
        hhead (List.mem_map.2 ⟨(e.1, w), hw, rfl⟩)
      have hnone : Entries.get? e.1 (Entries.ofList es) = none :=
        Option.eq_none_iff_forall_ne_some.2 fun w hw => habsent w ((ih hrest).1 hw)
      simp [hnone, habsent, Prod.ext_iff, eq_comm]
    · simp [hk, ih hrest, Prod.ext_iff, Ne.symm hk]

theorem ofList_perm {es : List (String × α)} {d : Dict α} (h : es.Perm d.entries) : ofList es = d := by
  have hnodup : (es.map (·.1)).Nodup := (h.map _).nodup_iff.2 d.nodup_keys
  refine ext_get? fun k => Option.ext fun v => ?_
  rw [get?_ofList_eq_some_iff hnodup, get?, Entries.get?_eq_some_iff d.sorted, h.mem_iff]

end Dict

theorem Entries.sorted_ofList (es : List (String × α)) : Sorted (ofList es) :=
  Sorted.setAll .nil es

theorem Entries.mem_ofList {es : List (String × α)} {e : String × α}
    (h : e ∈ ofList es) : e ∈ es := by
  obtain ⟨k, v⟩ := e
  have hget : get? k (ofList es) = some v := (get?_eq_some_iff (sorted_ofList es)).2 h
  rw [get?_ofList, Option.map_eq_some_iff] at hget
  obtain ⟨⟨k', v'⟩, hlast, rfl⟩ := hget
  obtain ⟨hmem, hkey⟩ := List.mem_filter.1 (List.mem_of_getLast? hlast)
  obtain rfl : k' = k := beq_iff_eq.1 hkey
  exact hmem

end Backoffice

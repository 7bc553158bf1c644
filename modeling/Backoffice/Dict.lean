/-!
Dictionaries with text keys, kept in the order of their keys.

`Entries` are the operations on a list of pairs; a `Dict` carries the proof that its keys ascend, so
that two dictionaries with the same look-ups are equal. Main statements: what `get?` answers after
`set` and `erase`.
-/

namespace Backoffice

universe u

variable {α : Type u}

namespace Entries

def get? (k : String) : List (String × α) → Option α
  | [] => none
  | (k', v) :: rest => if k' = k then some v else get? k rest

/-- Puts `v` under `k`: in place of the old value, else before the first larger key. -/
def set (k : String) (v : α) : List (String × α) → List (String × α)
  | [] => [(k, v)]
  | (k', v') :: rest =>
    if k < k' then (k, v) :: (k', v') :: rest
    else if k = k' then (k, v) :: rest
    else (k', v') :: set k v rest

def erase (k : String) (es : List (String × α)) : List (String × α) :=
  es.filter fun e => e.1 != k

/-- The entries in the order of their keys; of two with one key the later is kept. -/
def ofList (es : List (String × α)) : List (String × α) :=
  es.foldl (fun acc e => set e.1 e.2 acc) []

def Sorted (es : List (String × α)) : Prop :=
  es.Pairwise fun a b => a.1 < b.1

@[simp] theorem get?_nil (k : String) : get? k ([] : List (String × α)) = none := rfl

@[simp] theorem get?_set_self (k : String) (v : α) (es : List (String × α)) :
    get? k (set k v es) = some v := by
  induction es with
  | nil => simp [set, get?]
  | cons e rest ih =>
    obtain ⟨k', v'⟩ := e
    unfold set
    split
    · simp [get?]
    · split
      · simp [get?]
      · rename_i h
        simp [get?, Ne.symm h, ih]

@[simp] theorem get?_set_ne {k j : String} (h : j ≠ k) (v : α) (es : List (String × α)) :
    get? j (set k v es) = get? j es := by
  induction es with
  | nil => simp [set, get?, Ne.symm h]
  | cons e rest ih =>
    obtain ⟨k', v'⟩ := e
    unfold set
    split
    · simp [get?, Ne.symm h]
    · split
      · rename_i hk
        subst hk
        simp [get?, Ne.symm h]
      · simp [get?, ih]

@[simp] theorem get?_erase_self (k : String) (es : List (String × α)) :
    get? k (erase k es) = none := by
  induction es with
  | nil => rfl
  | cons e rest ih =>
    obtain ⟨k', v'⟩ := e
    by_cases h : k' = k
    · simpa [erase, h] using ih
    · simp only [erase] at ih
      simp [erase, h, get?, ih]

@[simp] theorem get?_erase_ne {k j : String} (h : j ≠ k) (es : List (String × α)) :
    get? j (erase k es) = get? j es := by
  induction es with
  | nil => rfl
  | cons e rest ih =>
    obtain ⟨k', v'⟩ := e
    simp only [erase] at ih
    by_cases hk : k' = k
    · subst hk
      simpa [erase, get?, Ne.symm h] using ih
    · simp [erase, hk, get?, ih]

theorem mem_set {k : String} {v : α} {es : List (String × α)} {e : String × α}
    (h : e ∈ set k v es) : e = (k, v) ∨ e ∈ es := by
  induction es with
  | nil => simpa [set] using h
  | cons e' rest ih =>
    obtain ⟨k', v'⟩ := e'
    unfold set at h
    split at h
    · simpa using h
    · split at h
      · rcases List.mem_cons.1 h with h | h
        · exact .inl h
        · exact .inr (List.mem_cons_of_mem _ h)
      · rcases List.mem_cons.1 h with h | h
        · exact .inr (h ▸ List.mem_cons_self)
        · rcases ih h with h | h
          · exact .inl h
          · exact .inr (List.mem_cons_of_mem _ h)

theorem Sorted.set {es : List (String × α)} (h : Sorted es) (k : String) (v : α) :
    Sorted (set k v es) := by
  induction es with
  | nil => simp [Entries.set, Sorted]
  | cons e rest ih =>
    obtain ⟨k', v'⟩ := e
    have hrest : Sorted rest := (List.pairwise_cons.1 h).2
    have hhead : ∀ e ∈ rest, k' < e.1 := (List.pairwise_cons.1 h).1
    unfold Entries.set
    split
    · rename_i hlt
      refine List.pairwise_cons.2 ⟨fun e he => ?_, h⟩
      rcases List.mem_cons.1 he with rfl | he
      · exact hlt
      · exact String.lt_trans hlt (hhead e he)
    · split
      · rename_i heq
        subst heq
        exact List.pairwise_cons.2 ⟨hhead, hrest⟩
      · rename_i hnlt hne
        refine List.pairwise_cons.2 ⟨fun e he => ?_, ih hrest⟩
        rcases mem_set he with rfl | he
        · exact Decidable.byContradiction fun hn =>
            hne (String.le_antisymm (String.not_lt.1 hn) (String.not_lt.1 hnlt))
        · exact hhead e he

theorem Sorted.erase {es : List (String × α)} (h : Sorted es) (k : String) :
    Sorted (erase k es) :=
  List.Pairwise.filter _ h

end Entries

structure Dict (α : Type u) where
  entries : List (String × α)
  sorted : Entries.Sorted entries

namespace Dict

def empty : Dict α := ⟨[], .nil⟩

instance : Inhabited (Dict α) := ⟨empty⟩

instance : EmptyCollection (Dict α) := ⟨empty⟩

def get? (d : Dict α) (k : String) : Option α := Entries.get? k d.entries

def contains (d : Dict α) (k : String) : Bool := (d.get? k).isSome

def set (d : Dict α) (k : String) (v : α) : Dict α :=
  ⟨Entries.set k v d.entries, d.sorted.set k v⟩

def erase (d : Dict α) (k : String) : Dict α :=
  ⟨Entries.erase k d.entries, d.sorted.erase k⟩

def keys (d : Dict α) : List String := d.entries.map (·.1)

def values (d : Dict α) : List α := d.entries.map (·.2)

def ofList (es : List (String × α)) : Dict α :=
  es.foldl (fun d e => d.set e.1 e.2) empty

@[simp] theorem get?_empty (k : String) : (empty : Dict α).get? k = none := rfl

@[simp] theorem get?_set_self (d : Dict α) (k : String) (v : α) : (d.set k v).get? k = some v :=
  Entries.get?_set_self k v d.entries

@[simp] theorem get?_set_ne (d : Dict α) {k j : String} (h : j ≠ k) (v : α) :
    (d.set k v).get? j = d.get? j :=
  Entries.get?_set_ne h v d.entries

@[simp] theorem get?_erase_self (d : Dict α) (k : String) : (d.erase k).get? k = none :=
  Entries.get?_erase_self k d.entries

@[simp] theorem get?_erase_ne (d : Dict α) {k j : String} (h : j ≠ k) :
    (d.erase k).get? j = d.get? j :=
  Entries.get?_erase_ne h d.entries

end Dict

end Backoffice

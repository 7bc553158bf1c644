import Backoffice.Proofs.Assignment.Codec
import Backoffice.Proofs.Assignment.Contract
import Backoffice.Proofs.Assignment.Lifecycle

namespace Backoffice

def Supply.readings : Nat → Supply → List Instant
  | 0, _ => []
  | n + 1, s => s.now.1 :: s.now.2.readings n

theorem Supply.mem_readings_succ {n : Nat} {s : Supply} {t : Instant} (h : t ∈ s.readings n) :
    t ∈ s.readings (n + 1) := by
  induction n generalizing s with
  | zero => cases h
  | succ n ih =>
    rcases List.mem_cons.1 h with rfl | h
    · exact List.mem_cons_self
    · exact List.mem_cons_of_mem _ (ih h)

namespace Assignment

theorem Operation.Effect.stamps {op : Operation} {a b : Assignment} {action : Action}
    {now : Instant} (h : Effect action now a op b) :
    ∀ o ∈ b.stamps, o ∈ a.stamps ∨ o = some now ∨ o = none := by
  cases h <;> simp [Assignment.stamps, taken]

namespace Queue

variable {n : Nat} {supply : Supply} {s : Store}

/-- The next readings of the clock and all rows are legible. -/
structure Ready (readings : Nat) (supply : Supply) (s : Store) : Prop where
  clock : ∀ t ∈ supply.readings readings, t.Legible
  rows : ∀ id a, s.rows.get? id = some a → a.Legible

theorem Ready.write {a : Assignment} (h : Ready n supply s) (ha : a.Legible) :
    Ready n supply (s.write a) where
  clock := h.clock
  rows id b hb := by
    rw [Store.get?_write] at hb
    split at hb
    · cases hb
      exact ha
    · exact h.rows id b hb

theorem Ready.spend {supply' : Supply} (h : Ready (n + 1) supply s)
    (hsupply : supply' = supply ∨ supply' = supply.now.2) : Ready n supply' s where
  clock t ht := by
    rcases hsupply with rfl | rfl
    · exact h.clock t (Supply.mem_readings_succ ht)
    · exact h.clock t (List.mem_cons_of_mem _ ht)
  rows := h.rows

theorem Legible.mark {q : Request} {current stored next : Assignment} {now : Instant}
    (version : Nat) (hcurrent : current.Legible) (hstored : stored.Legible) (hnow : now.Legible)
    (happly : q.op.apply current q.filled now = .ok next) :
    Assignment.Legible { q.mark next now with version, createdAt := stored.createdAt } where
  created := hstored.created
  updated := hnow
  stamps o ho t ht := by
    rcases (Operation.effect_of_apply happly).stamps o ho with ho | rfl | rfl
    · exact hcurrent.stamps o ho t ht
    · cases ht
      exact hnow
    · cases ht

theorem look_supply (q : Request) (supply : Supply) (s : Store) :
    (look q (supply, s)).2.1 = supply ∨ (look q (supply, s)).2.1 = supply.now.2 := by
  simp only [look, Call.bind_apply, Call.ofExcept_apply, Call.asks_apply, Call.now_apply]
  cases letIn q.ctx q.action with
  | error f => exact .inl rfl
  | ok action =>
    cases hget : s.get q.ctx action.id with
    | error f => simp [hget]
    | ok current => simp [hget]

theorem execute_supply (q : Request) (supply : Supply) (s : Store) :
    (execute q.ctx q.op q.action (supply, s)).2.1 = supply ∨
      (execute q.ctx q.op q.action (supply, s)).2.1 = supply.now.2 := by
  have hlook := look_supply q supply s
  rw [execute_eq, Call.bind_apply]
  generalize look q (supply, s) = looked at hlook
  obtain ⟨f | ⟨row⟩ | ⟨row⟩, supply', t⟩ := looked
  · exact hlook
  · exact hlook
  · dsimp only
    rw [commit, Call.atomic_apply]
    split <;> exact hlook

theorem look_eq_write {q : Request} {row : Assignment}
    (h : (look q (supply, s)).1 = .ok (.write row)) : ∃ current next,
      s.rows.get? q.action.id = some current ∧
        q.op.apply current q.filled supply.now.1 = .ok next ∧ row = q.mark next supply.now.1 := by
  rw [(look_apply q supply s).2] at h
  obtain ⟨action, hlet, h⟩ := bind_eq_ok.1 h
  obtain ⟨current, hget, h⟩ := bind_eq_ok.1 h
  obtain ⟨-, rfl, -⟩ := letIn_eq_ok hlet
  rcases prepare_eq_ok h with ⟨hplan, -⟩ | ⟨next, -, happly, hplan⟩
  · cases hplan
  · cases hplan
    exact ⟨current, next, (Store.get_eq_ok hget).2, happly, rfl⟩

theorem ready_execute (q : Request) (h : Ready (n + 1) supply s) :
    Ready n (execute q.ctx q.op q.action (supply, s)).2.1
        (execute q.ctx q.op q.action (supply, s)).2.2 ∧
      ∀ a, (execute q.ctx q.op q.action (supply, s)).1 = .ok a → a.Legible := by
  have hspent := h.spend (execute_supply q supply s)
  rcases execute_cases q supply s with
    ⟨f, supply', -, heq⟩ | ⟨row, supply', hlook, heq⟩ | ⟨row, supply', hlook, heq⟩
  · rw [heq] at hspent ⊢
    exact ⟨hspent, by simp⟩
  · rw [heq] at hspent ⊢
    refine ⟨hspent, fun a ha => ?_⟩
    cases ha
    rcases look_eq_ok hlook with ⟨_, hplan, hrow, -⟩ | ⟨_, hplan, -⟩
    · cases hplan
      exact h.rows _ _ hrow
    · cases hplan
  · obtain ⟨current, next, hcurrent, happly, rfl⟩ := look_eq_write hlook
    rw [heq, commit, Call.atomic_apply] at hspent ⊢
    cases hreplace : s.replace q.ctx (q.mark next supply.now.1) q.action.expectedVersion with
    | error f =>
      simp only [hreplace] at hspent ⊢
      exact ⟨hspent, by simp⟩
    | ok written =>
      obtain ⟨b, t⟩ := written
      simp only [hreplace] at hspent ⊢
      obtain ⟨stored, hstored, ⟨-, rfl, rfl⟩ | ⟨-, -, rfl, -, rfl⟩⟩ := Store.replace_eq_ok hreplace
      · refine ⟨hspent, fun a ha => ?_⟩
        cases ha
        exact h.rows _ _ hstored
      · have hb := Legible.mark (stored.version + 1) (h.rows _ _ hcurrent) (h.rows _ _ hstored)
          (h.clock _ List.mem_cons_self) happly
        refine ⟨hspent.write hb, fun a ha => ?_⟩
        cases ha
        exact hb

theorem ready_item {ctx : Context} {op : Operation} {action : Action} {o : Outcome}
    {t : Supply × Store} (h : Ready (n + 1) supply s)
    (hrun : (itemSteps ctx op action).run (supply, s) = (.ok o, t)) :
    Ready n t.1 t.2 ∧ ∀ a, o.result = .ok a → a.Legible := by
  rw [run_itemSteps] at hrun
  obtain ⟨u, s', hactive, hrun⟩ := Call.bind_apply_eq_ok.1 hrun
  rw [Call.ofExcept_apply] at hactive
  obtain ⟨-, rfl⟩ := Prod.mk.inj hactive
  cases hrun
  exact ready_execute ⟨ctx, op, action⟩ h

theorem legible_items {ctx : Context} {op : Operation} {actions : List Action} {os : List Outcome}
    {t : Supply × Store} (h : Ready actions.length supply s)
    (hrun : (actions.mapM (itemSteps ctx op)).run (supply, s) = (.ok os, t)) :
    ∀ o ∈ os, ∀ a, o.result = .ok a → a.Legible := by
  rw [Process.run_mapM] at hrun
  induction actions generalizing supply s os with
  | nil =>
    cases hrun
    simp
  | cons action actions ih =>
    rw [List.mapM_cons] at hrun
    obtain ⟨o, s', hfirst, hrun⟩ := Call.bind_apply_eq_ok.1 hrun
    obtain ⟨rest, s'', hrest, hrun⟩ := Call.bind_apply_eq_ok.1 hrun
    cases hrun
    obtain ⟨hready, ho⟩ := ready_item h hfirst
    intro o' ho'
    rcases List.mem_cons.1 ho' with rfl | ho'
    · exact ho
    · exact ih hready hrest o' ho'

theorem legible_bulk {ctx : Context} {op : Operation} {b : BulkAction} {os : List Outcome}
    {t : Supply × Store} (h : Ready b.items.length supply s)
    (hrun : executeBulk ctx op b (supply, s) = (.ok os, t)) :
    ∀ o ∈ os, ∀ a, o.result = .ok a → a.Legible := by
  rw [← run_executeBulkSteps, executeBulkSteps] at hrun
  split at hrun
  · cases hrun
  · have hlength : b.actions.length = b.items.length := List.length_map _
    exact legible_items (hlength ▸ h) hrun

theorem legible_create {ctx : Context} {d : Draft} {a : Assignment} {t : Supply × Store}
    (h : Ready 1 supply s) (hdue : ∀ t, d.dueDate = some t → t.Legible)
    (hrun : create ctx d (supply, s) = (.ok a, t)) : a.Legible := by
  simp only [create, Call.bind_apply, Call.now_apply, Call.fresh_apply, Call.ofExcept_apply] at hrun
  split at hrun
  · rw [Call.atomic_apply] at hrun
    split at hrun
    · rename_i hinsert
      cases hrun
      obtain ⟨rfl, -⟩ := Store.insert_eq_ok hinsert
      have hnow : supply.clock.Legible := h.clock _ List.mem_cons_self
      refine ⟨hnow, hnow, ?_⟩
      simpa [Assignment.stamps, Draft.assignment] using hdue
    · cases hrun
  · cases hrun

theorem legible_list {ctx : Context} {f : Filter} {as : List Assignment} {t : Supply × Store}
    (h : Ready n supply s) (hrun : list ctx f (supply, s) = (.ok as, t)) : ∀ a ∈ as, a.Legible := by
  rw [list, Call.asks_apply] at hrun
  obtain ⟨u, -, hlist⟩ := bind_eq_ok.1 (congrArg Prod.fst hrun)
  cases hlist
  intro a ha
  obtain ⟨id, hid⟩ := (Dict.mem_values_iff _ _).1 (List.mem_filter.1 (List.mem_mergeSort.1 ha)).1
  exact h.rows id a hid

def Command.readings : Command → Nat
  | create _ => 1
  | list _ => 0
  | single .. => 1
  | bulk _ b => b.items.length

variable {ctx : Context} {c : Command} {a : Answer} {t : Supply × Store}

theorem legible_run (hc : c.Legible) (h : Ready c.readings supply s)
    (hrun : run ctx c (supply, s) = (.ok a, t)) :
    a.Fits c.verb ∧ ∀ row ∈ a.assignments, row.Legible := by
  cases c with
  | create d =>
    obtain ⟨row, s', hcreate, hrun⟩ := Call.bind_apply_eq_ok.1 hrun
    cases hrun
    exact ⟨.create, List.forall_mem_singleton.2 (legible_create h hc hcreate)⟩
  | list f =>
    obtain ⟨rows, s', hlist, hrun⟩ := Call.bind_apply_eq_ok.1 hrun
    cases hrun
    exact ⟨.list, legible_list h hlist⟩
  | single op action =>
    obtain ⟨row, s', hexecute, hrun⟩ := Call.bind_apply_eq_ok.1 hrun
    cases hrun
    refine ⟨.single, List.forall_mem_singleton.2 ?_⟩
    exact (ready_execute ⟨ctx, op, action⟩ h).2 row (congrArg Prod.fst hexecute)
  | bulk op b =>
    obtain ⟨os, s', hbulk, hrun⟩ := Call.bind_apply_eq_ok.1 hrun
    cases hrun
    refine ⟨.bulk, fun row hrow => ?_⟩
    obtain ⟨⟨id, f | succeeded⟩, ho, hresult⟩ := List.mem_filterMap.1 hrow
    · cases hresult
    · cases hresult
      exact legible_bulk h hbulk _ ho row rfl

theorem run_told (hc : c.Legible) (h : Ready c.readings supply s)
    (hrun : run ctx c (supply, s) = (.ok a, t))
    (hversions : ∀ row ∈ a.assignments, row.version < UInt64.size) :
    c.verb.decodeAnswer a.toJson = some a.told := by
  obtain ⟨hfits, hlegible⟩ := legible_run hc h hrun
  exact Answer.decode_toJson hfits fun row hrow =>
    decode_toJson (hlegible row hrow) (hversions row hrow)

end Queue

end Assignment

end Backoffice

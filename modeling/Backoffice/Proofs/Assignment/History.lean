import Backoffice.Proofs.Assignment.Contract

namespace Backoffice.Assignment.Queue

def Writes (m : Moment Event Store) (id : String) (a : Assignment) : Prop :=
  m.before.rows.get? id ≠ some a ∧ m.after.rows.get? id = some a

def storedVersions (id : String) (ms : List (Moment Event Store)) : List Nat :=
  ms.filterMap fun m =>
    if m.before.rows.get? id = m.after.rows.get? id then none
    else (m.after.rows.get? id).map (·.version)

theorem Allowed.row {e : Event} {s t : Store} (h : Allowed e s t) (hs : Filed s) (id : String) :
    t.rows.get? id = s.rows.get? id ∨
      ∃ a, t.rows.get? id = some a ∧ a.version = versionAt s id + 1 := by
  rcases h.effect hs with rfl | ⟨a, rfl, hversion⟩
  · exact .inl rfl
  · by_cases hid : id = a.id
    · subst hid
      exact .inr ⟨a, by simp, hversion⟩
    · exact .inl (by simp [hid])

theorem storedVersions_eq {s t : Store} {ms : List (Moment Event Store)}
    (h : contract.Allows s ms t) (hs : Filed s) (id : String) :
    List.range' 1 (versionAt s id) ++ storedVersions id ms = List.range' 1 (versionAt t id) := by
  induction ms generalizing s with
  | nil =>
    cases h
    simp [storedVersions]
  | cons m ms ih =>
    obtain ⟨rfl, hguar, hrest⟩ := h
    have hs' := (Allowed.keeps hs hguar).1
    rw [← ih hrest hs']
    rcases hguar.row hs id with hsame | ⟨a, ha, hversion⟩
    · simp [storedVersions, versionAt, hsame]
    · have hchanged : m.before.rows.get? id ≠ some a := by
        intro hbefore
        rw [versionAt_of_some hbefore] at hversion
        omega
      rw [versionAt_of_some ha, hversion, List.range'_concat]
      simp [storedVersions, ha, hchanged, hversion, Nat.add_comm]

theorem Allowed.version_of_writes {m : Moment Event Store} {id : String} {a : Assignment}
    (h : Allowed m.event m.before m.after) (hs : Filed m.before) (hw : Writes m id a) :
    a.version = versionAt m.before id + 1 := by
  rcases h.row hs id with hsame | ⟨b, hb, hversion⟩
  · exact absurd (hsame.symm.trans hw.2) hw.1
  · cases hb.symm.trans hw.2
    exact hversion

theorem versionAt_mono {s t : Store} (h : Moved s t) (id : String) :
    versionAt s id ≤ versionAt t id := by
  cases hs : s.rows.get? id with
  | none => simp [versionAt, hs]
  | some a =>
    obtain ⟨b, hb, hab⟩ := h id a hs
    rw [versionAt_of_some hs, versionAt_of_some hb]
    rcases hab with rfl | hab
    · exact Nat.le_refl _
    · exact Nat.le_of_lt hab

theorem writes_ascend {s t : Store} {ms : List (Moment Event Store)}
    (h : contract.Allows s ms t) (hs : Filed s) :
    ms.Pairwise fun m m' => ∀ id a b, Writes m id a → Writes m' id b → a.version < b.version := by
  induction ms generalizing s with
  | nil => exact .nil
  | cons m ms ih =>
    obtain ⟨rfl, hguar, hrest⟩ := h
    have hs' := (Allowed.keeps hs hguar).1
    refine .cons ?_ (ih hrest hs')
    intro m' hm' id a b ha hb
    obtain ⟨hinv, hmoved, hguar'⟩ := hrest.moment hs' hm'
    have hle := versionAt_mono hmoved id
    rw [versionAt_of_some ha.2] at hle
    rw [Allowed.version_of_writes hguar' hinv hb]
    exact Nat.lt_succ_of_le hle

def Begins (m : Moment Event Store) (a : Assignment) : Prop :=
  ∃ ctx d now fresh, m.event = .created ctx d (.ok a) ∧
    a = d.assignment (actor ctx d.actorId) now fresh

theorem written_of_writes {m : Moment Event Store} {id : String} {a : Assignment}
    (h : Allowed m.event m.before m.after) (hs : Filed m.before) (hw : Writes m id a) :
    a.id = id ∧ ((Begins m a ∧ a.version = 1 ∧ m.before.rows.get? id = none) ∨
      ∃ q current, m.event = .ended q (.ok a) ∧ q.action.id = id ∧
        m.before.rows.get? id = some current ∧ Advances q current a) := by
  obtain ⟨call, event, before, after⟩ := m
  obtain ⟨hbefore, hafter⟩ := hw
  dsimp only at h hs hbefore hafter ⊢
  cases h with
  | listed | notCreated | looked | refused | repeated => exact absurd hafter hbefore
  | @created ctx d s t now fresh hvalid hinsert =>
    obtain ⟨-, habsent, -, rfl⟩ := Store.insert_eq_ok hinsert
    rw [Store.get?_write] at hafter
    split at hafter
    · rename_i hid
      cases hafter
      subst hid
      exact ⟨rfl, .inl ⟨⟨ctx, d, now, fresh, rfl, rfl⟩, rfl, habsent⟩⟩
    · exact absurd hafter hbefore
  | @advanced q current row s hcurrent hadv hunique =>
    rw [Store.get?_write] at hafter
    split at hafter
    · rename_i hid
      cases hafter
      have hid' : q.action.id = id := by rw [hid, hadv.id, hs _ _ hcurrent]
      subst hid'
      exact ⟨hid.symm, .inr ⟨q, current, rfl, rfl, hcurrent, hadv⟩⟩
    · exact absurd hafter hbefore

theorem ended_cases {m : Moment Event Store} {q : Request} {r : Except Fault Assignment}
    (h : Allowed m.event m.before m.after) (hs : Filed m.before) (he : m.event = .ended q r) :
    (∃ a, r = .ok a ∧ Writes m q.action.id a ∧ a.version = q.action.expectedVersion + 1) ∨
      (m.after = m.before ∧ ((∃ f, r = .error f) ∨
        ∃ row, r = .ok row ∧ m.before.rows.get? q.action.id = some row ∧ Repeats q row)) := by
  obtain ⟨call, event, before, after⟩ := m
  dsimp only at h hs he ⊢
  subst he
  cases h with
  | refused => exact .inr ⟨rfl, .inl ⟨_, rfl⟩⟩
  | repeated hrow hrepeats => exact .inr ⟨rfl, .inr ⟨_, rfl, hrow, hrepeats⟩⟩
  | advanced hcurrent hadv hunique =>
    rename_i current row
    have hid : row.id = q.action.id := hadv.id.trans (hs _ _ hcurrent)
    refine .inl ⟨row, rfl, ⟨?_, ?_⟩, by rw [hadv.version, hadv.expected]⟩
    · rw [hcurrent]
      intro hsame
      cases hsame
      have hversion := hadv.version
      omega
    · rw [Store.get?_write, if_pos hid.symm]

def endings (es : List Event) : List (Request × Except Fault Assignment) :=
  es.filterMap fun
    | .ended q r => some (q, r)
    | _ => none

@[simp] theorem endings_append (es es' : List Event) :
    endings (es ++ es') = endings es ++ endings es' := List.filterMap_append

theorem shows_look_then_end (q : Request) : (executeSteps q).Shows fun es r =>
    es = [.ended q r] ∨ es = [.looked q, .ended q r] := by
  have hlook : (Process.atomically (look q) (lookEvent q)).Shows fun es r => es = [lookEvent q r] :=
    Process.shows_atomically fun _ => rfl
  apply hlook.bind
  · intro es plan hes
    subst hes
    cases plan with
    | replay row => exact .inl rfl
    | write row => exact Process.shows_atomically fun _ => .inr rfl
  · intro es f hes
    subst hes
    exact .inl rfl

theorem shows_executeSteps (q : Request) :
    (executeSteps q).Shows fun es r => endings es = [(q, r)] := by
  apply (shows_look_then_end q).imp
  rintro es r (rfl | rfl) <;> rfl

structure Reports (ctx : Context) (op : Operation) (actions : List Action) (es : List Event)
    (os : List Outcome) : Prop where
  requests : (endings es).map (·.1) = actions.map fun action => ⟨ctx, op, action⟩
  answers : (endings es).map (·.2) = os.map (·.result)
  ids : os.map (·.id) = actions.map (·.id)

theorem shows_itemSteps {ctx : Context} (hctx : ctx.ensureActive = .ok ()) (op : Operation)
    (action : Action) : (itemSteps ctx op action).Shows fun es r =>
      ∃ o, r = .ok o ∧ Reports ctx op [action] es [o] := by
  rw [itemSteps, hctx]
  have hone : (executeSteps ⟨ctx, op, action⟩).attempt.Shows fun es r =>
      ∃ x, r = .ok x ∧ endings es = [(⟨ctx, op, action⟩, x)] :=
    (shows_executeSteps _).attempt fun es x hes => ⟨x, rfl, hes⟩
  apply hone.bind
  · rintro es x ⟨_, hx, hes⟩
    cases hx
    refine ⟨⟨action.id, x⟩, rfl, ?_, ?_, rfl⟩
    · simp [hes]
    · simp [hes]
  · rintro es f ⟨_, hf, _⟩
    cases hf

theorem shows_items {ctx : Context} (hctx : ctx.ensureActive = .ok ()) (op : Operation)
    (actions : List Action) : (actions.mapM (itemSteps ctx op)).Shows fun es r =>
      ∃ os, r = .ok os ∧ Reports ctx op actions es os := by
  induction actions with
  | nil => exact ⟨[], rfl, rfl, rfl, rfl⟩
  | cons action actions ih =>
    rw [List.mapM_cons]
    apply (shows_itemSteps hctx op action).bind
    · rintro es o ⟨_, ho, hone⟩
      cases ho
      apply ih.bind
      · rintro es' os ⟨_, hos, hrest⟩
        cases hos
        refine ⟨o :: os, rfl, ?_, ?_, ?_⟩
        · simp [hone.requests, hrest.requests]
        · simp [hone.answers, hrest.answers]
        · simpa using ⟨by simpa using hone.ids, hrest.ids⟩
      · rintro es' f ⟨_, hf, _⟩
        cases hf
    · rintro es f ⟨_, hf, _⟩
      cases hf

def Answered (ctx : Context) : Command → List Event → Except Fault Answer → Prop
  | .create d, es, r => ∃ x, es = [.created ctx d x] ∧ r = Answer.row <$> x
  | .list _, es, _ => es = [.listed]
  | .single op action, es, r =>
    ∃ x, endings es = [(⟨ctx, op, action⟩, x)] ∧ r = Answer.row <$> x
  | .bulk op b, es, r => (es = [] ∧ ∃ f, r = .error f) ∨
    ∃ os, r = .ok (.outcomes os) ∧ Reports ctx op b.actions es os

theorem shows_process (ctx : Context) (c : Command) : (process ctx c).Shows (Answered ctx c) := by
  cases c with
  | create d =>
    have h : (Process.atomically (create ctx d) (Event.created ctx d)).Shows
        fun es x => es = [.created ctx d x] := Process.shows_atomically fun _ => rfl
    exact h.map _
  | list f =>
    have h : (Process.atomically (list ctx f) fun _ => Event.listed).Shows
        fun es _ => es = [.listed] := Process.shows_atomically fun _ => rfl
    exact (h.map _).imp fun es r ⟨x, hes, _⟩ => hes
  | single op action => exact (shows_executeSteps _).map _
  | bulk op b =>
    have h : (executeBulkSteps ctx op b).Shows fun es r =>
        (es = [] ∧ ∃ f, r = .error f) ∨ ∃ os, r = .ok os ∧ Reports ctx op b.actions es os := by
      unfold executeBulkSteps
      split
      · exact .inl ⟨rfl, _, rfl⟩
      · rename_i hitems
        cases hctx : ctx.ensureActive with
        | error f =>
          -- a cancelled command stops before its first item, and there is one
          obtain ⟨target, items, hcons⟩ := List.exists_cons_of_ne_nil (mt List.isEmpty_iff.2 hitems)
          rw [BulkAction.actions, hcons, List.map_cons, List.mapM_cons, itemSteps, hctx]
          exact .inl ⟨rfl, f, rfl⟩
        | ok u => exact (shows_items hctx op b.actions).imp fun es r => .inr
    refine (h.map _).imp ?_
    rintro es r ⟨x, ⟨hes, f, rfl⟩ | ⟨os, rfl, hos⟩, rfl⟩
    · exact .inl ⟨hes, f, rfl⟩
    · exact .inr ⟨os, rfl, hos⟩

def start (calls : List (Context × Command)) (supply : Supply) : World Event Store Answer :=
  ⟨calls.map fun c => process c.1 c.2, supply, .empty⟩

/-- No update is lost and none is made twice. -/
structure Coherent (calls : List (Context × Command)) (ms : List (Moment Event Store))
    (w : World Event Store Answer) : Prop where
  versions : ∀ id, storedVersions id ms = List.range' 1 (versionAt w.state id)
  one_writer : ms.Pairwise fun m m' => ∀ id a b, Writes m id a → Writes m' id b →
    a.version ≠ b.version
  written : ∀ m ∈ ms, ∀ id a, Writes m id a → a.id = id ∧
    ((Begins m a ∧ a.version = 1 ∧ m.before.rows.get? id = none) ∨
      ∃ q current, m.event = .ended q (.ok a) ∧ q.action.id = id ∧
        m.before.rows.get? id = some current ∧ Advances q current a)
  one_winner : ms.Pairwise fun m m' => ∀ q q' r r', m.event = .ended q r → m'.event = .ended q' r' →
    q.action.id = q'.action.id → q.action.expectedVersion = q'.action.expectedVersion →
    m.after = m.before ∨ m'.after = m'.before
  others : ∀ m ∈ ms, ∀ q r, m.event = .ended q r → m.after = m.before →
    (∃ f, r = .error f) ∨
      ∃ row, r = .ok row ∧ m.before.rows.get? q.action.id = some row ∧ Repeats q row
  answers : ∀ i ctx c r, calls[i]? = some (ctx, c) → w.calls[i]? = some (.done r) →
    Answered ctx c (eventsOf i ms) r

theorem filed_empty : Filed .empty := by
  intro id a h
  cases h

theorem interleaving_coherent (calls : List (Context × Command)) (supply : Supply)
    (turns : List Turn) :
    Coherent calls ((start calls supply).play turns).1 ((start calls supply).play turns).2 := by
  have hrun : contract.Allows .empty ((start calls supply).play turns).1
      ((start calls supply).play turns).2.state := by
    apply World.play_allowed (start calls supply) turns filed_empty
    intro p hp
    obtain ⟨c, -, rfl⟩ := List.mem_map.1 hp
    exact keeps_process c.1 c.2 _
  have hstep : ∀ m ∈ ((start calls supply).play turns).1,
      Filed m.before ∧ Moved .empty m.before ∧ Allowed m.event m.before m.after :=
    fun _ hm => hrun.moment filed_empty hm
  have hascend := writes_ascend hrun filed_empty
  constructor
  case versions => exact fun id => storedVersions_eq hrun filed_empty id
  case one_writer =>
    refine hascend.imp fun h id a b ha hb => ?_
    exact Nat.ne_of_lt (h id a b ha hb)
  case written => exact fun m hm id a hw => written_of_writes (hstep m hm).2.2 (hstep m hm).1 hw
  case one_winner =>
    refine List.Pairwise.imp_of_mem ?_ hascend
    intro m m' hm hm' h q q' r r' he he' hid hexpected
    rcases ended_cases (hstep m hm).2.2 (hstep m hm).1 he with ⟨a, -, ha, hva⟩ | ⟨hsame, -⟩
    · rcases ended_cases (hstep m' hm').2.2 (hstep m' hm').1 he' with ⟨b, -, hb, hvb⟩ | ⟨hsame, -⟩
      · have hlt := h q'.action.id a b (hid ▸ ha) hb
        omega
      · exact .inr hsame
    · exact .inl hsame
  case others =>
    intro m hm q r he hsame
    rcases ended_cases (hstep m hm).2.2 (hstep m hm).1 he with ⟨a, -, hw, -⟩ | ⟨-, h⟩
    · exact absurd (hsame ▸ hw.2) hw.1
    · exact h
  case answers =>
    intro i ctx c r hi hr
    refine World.play_shows (start calls supply) turns ?_ (shows_process ctx c) hr
    simp [start, hi]

end Backoffice.Assignment.Queue

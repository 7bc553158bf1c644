import Backoffice.Proofs.Assignment.Rows

namespace Backoffice.Assignment

structure Identity where
  id : String
  groupId : String
  entityType : String
  sourceRecordId : String
  sourceLocale : String
  targetLocale : String
  targetRecordId : Option String
  priority : Priority
  dueDate : Option Instant
  createdAt : Instant

def identity (a : Assignment) : Identity :=
  ⟨a.id, a.groupId, a.entityType, a.sourceRecordId, a.sourceLocale, a.targetLocale, a.targetRecordId,
    a.priority, a.dueDate, a.createdAt⟩

theorem Status.successors_of_isTerminal {status : Status} (h : status.isTerminal = true) :
    status.successors = [] := by
  cases status <;> simp_all [isTerminal, successors]

structure Continues (a b : Assignment) : Prop where
  identity : b.identity = a.identity
  closed : a.status.isTerminal = true → b = a

theorem Continues.refl (a : Assignment) : Continues a a := ⟨rfl, fun _ => rfl⟩

theorem Continues.trans {a b c : Assignment} (hab : Continues a b) (hbc : Continues b c) :
    Continues a c := by
  refine ⟨hbc.identity.trans hab.identity, fun ha => ?_⟩
  cases hab.closed ha
  exact hbc.closed ha

namespace Queue

theorem Advances.successor {q : Request} {current row : Assignment} (h : Advances q current row) :
    row.status ∈ current.status.successors := by
  obtain ⟨now, next, heffect, rfl⟩ := h.effect
  exact heffect.successor

theorem Advances.continues {q : Request} {current row : Assignment} (h : Advances q current row) :
    Continues current row := by
  refine ⟨by rw [h.frame]; rfl, fun hclosed => ?_⟩
  have hnext := h.successor
  rw [Status.successors_of_isTerminal hclosed] at hnext
  cases hnext

def Kept (s t : Store) : Prop :=
  ∀ id a, s.rows.get? id = some a → ∃ b, t.rows.get? id = some b ∧ Continues a b

theorem Kept.trans {s t u : Store} (hst : Kept s t) (htu : Kept t u) : Kept s u := by
  intro id a ha
  obtain ⟨b, hb, hab⟩ := hst id a ha
  obtain ⟨c, hc, hbc⟩ := htu id b hb
  exact ⟨c, hc, hab.trans hbc⟩

theorem RowStep.continues {e : Event} {row row' : Option Assignment} (h : RowStep e row row') :
    ∀ a, row = some a → ∃ b, row' = some b ∧ Continues a b := by
  intro a ha
  cases h with
  | same => exact ⟨a, ha, .refl a⟩
  | begun => cases ha
  | advanced he hentered hadv =>
    cases ha
    exact ⟨_, rfl, hadv.continues⟩

theorem RowStep.successor {e : Event} {a b : Assignment} (h : RowStep e (some a) (some b)) :
    b = a ∨ b.status ∈ a.status.successors := by
  cases h with
  | same => exact .inl rfl
  | advanced he hentered hadv => exact .inr hadv.successor

def Replays (q : Request) (s : Store) : Prop :=
  ∃ a, s.rows.get? q.action.id = some a ∧ Repeats q a

inductive Idle (m : Moment Event Store) : Prop
  | looked {q : Request} : m.event = .looked q → Idle m
  | refused {q : Request} {f : Fault} : m.event = .ended q (.error f) → Idle m
  | repeated {q : Request} {r : Except Fault Assignment} : m.event = .ended q r →
      Replays q m.before → Idle m

theorem Warranted.not_replays {e : Event} {s t : Store} (h : Warranted e s t) {q : Request}
    (he : e = .looked q) : ¬Replays q s := by
  rintro ⟨a, ha, hrepeats⟩
  exact h.looked q a he ha hrepeats

theorem Idle.unchanged {m : Moment Event Store} (h : Idle m)
    (hm : Warranted m.event m.before m.after) : m.after = m.before := by
  cases h with
  | looked he | refused he =>
    have hallowed := hm.allowed
    rw [he] at hallowed
    generalize m.before = s, m.after = t at hallowed
    cases hallowed
    rfl
  | repeated he hreplays =>
    obtain ⟨a, ha, hrepeats⟩ := hreplays
    exact hm.repeated _ _ a he ha hrepeats

theorem moments_of_events {ms : List (Moment Event Store)} {i : Nat} {q : Request}
    {r : Except Fault Assignment}
    (h : eventsOf i ms = [.ended q r] ∨ eventsOf i ms = [.looked q, .ended q r]) :
    ∃ last, last.event = .ended q r ∧
      ∀ m ∈ ms, m.call = i → m = last ∨ m.event = .looked q := by
  have hmem : ∀ {m}, m ∈ ms → m.call = i → m ∈ ms.filter (·.call == i) := by
    intro m hm hi
    simp [hm, hi]
  rcases h with h | h
  · obtain ⟨last, hlist, hlast⟩ := List.map_eq_singleton_iff.1 h
    refine ⟨last, hlast, fun m hm hi => .inl ?_⟩
    simpa [hlist] using hmem hm hi
  · obtain ⟨first, rest, hlist, hfirst, hrest⟩ := List.map_eq_cons_iff.1 h
    obtain ⟨last, rfl, hlast⟩ := List.map_eq_singleton_iff.1 hrest
    refine ⟨last, hlast, fun m hm hi => ?_⟩
    have hm' := hmem hm hi
    rw [hlist] at hm'
    cases hm' with
    | head => exact .inr hfirst
    | tail _ hm' => exact .inl (List.mem_singleton.1 hm')

theorem idle_of_events {ms : List (Moment Event Store)} {i : Nat} {q : Request}
    {r : Except Fault Assignment} (hms : ∀ m ∈ ms, Warranted m.event m.before m.after)
    (h : eventsOf i ms = [.ended q r] ∨ eventsOf i ms = [.looked q, .ended q r])
    (hcause : (∃ f, r = .error f) ∨ ∃ m ∈ ms, m.call = i ∧ Replays q m.before) :
    ∀ m ∈ ms, m.call = i → Idle m := by
  obtain ⟨last, hlast, hmoments⟩ := moments_of_events h
  intro m hm hi
  rcases hmoments m hm hi with rfl | hlooked
  · rcases hcause with ⟨f, rfl⟩ | ⟨m', hm', hi', hreplays⟩
    · exact .refused hlast
    · -- the key is found at the last step or not at all: a look that finds it is the last
      rcases hmoments m' hm' hi' with rfl | hlooked
      · exact .repeated hlast hreplays
      · exact absurd hreplays ((hms m' hm').not_replays hlooked)
  · exact .looked hlooked

theorem execute_idle {q : Request} {supply : Supply} {s : Store}
    (h : (∃ f, (execute q.ctx q.op q.action (supply, s)).1 = .error f) ∨ Replays q s) :
    (execute q.ctx q.op q.action (supply, s)).2.2 = s := by
  rcases execute_cases q supply s with ⟨_, _, -, heq⟩ | ⟨_, _, -, heq⟩ | ⟨row, supply', hlook, heq⟩
  · rw [heq]
  · rw [heq]
  · rw [heq] at h ⊢
    rcases h with ⟨f, hf⟩ | ⟨a, ha, hrepeats⟩
    · rw [commit, Call.atomic_apply] at hf ⊢
      split at hf <;> simp_all
    · cases look_of_repeats hlook ha hrepeats

/-- Rows go on, from status to status along the lifecycle; operations that fail or repeat change no
row. -/
structure Permanent (calls : List (Context × Command)) (ms : List (Moment Event Store))
    (w : World Event Store Answer) : Prop where
  kept : (ms.map (·.before) ++ [w.state]).Pairwise Kept
  moves : ∀ m ∈ ms, ∀ id a b, m.before.rows.get? id = some a → m.after.rows.get? id = some b →
    b = a ∨ b.status ∈ a.status.successors
  idle : ∀ m ∈ ms, Idle m → m.after = m.before
  looked : ∀ m ∈ ms, ∀ q, m.event = .looked q → ¬Replays q m.before
  single : ∀ (i : Nat) ctx op action r, calls[i]? = some (ctx, .single op action) →
    w.calls[i]? = some (.done r) →
    (∃ f, r = .error f) ∨ (∃ m ∈ ms, m.call = i ∧ Replays ⟨ctx, op, action⟩ m.before) →
    ∀ m ∈ ms, m.call = i → m.after = m.before
  execute : ∀ supply ctx op action,
    (∃ f, (execute ctx op action (supply, w.state)).1 = .error f) ∨
      Replays ⟨ctx, op, action⟩ w.state →
    (execute ctx op action (supply, w.state)).2.2 = w.state

theorem rows_permanent (calls : List (Context × Command)) (supply : Supply) (turns : List Turn) :
    Permanent calls ((start calls supply).play turns).1 ((start calls supply).play turns).2 := by
  have hrun := play_warranted calls supply turns
  have hstep : ∀ m ∈ ((start calls supply).play turns).1,
      Filed m.before ∧ Moved .empty m.before ∧ Warranted m.event m.before m.after :=
    fun _ hm => hrun.moment filed_empty hm
  constructor
  case kept =>
    refine hrun.pairwise (R := Kept) filed_empty Kept.trans ?_
    intro e s t hs hwarranted id
    exact (hwarranted.row hs id).continues
  case moves =>
    intro m hm id a b ha hb
    have hrow := (hstep m hm).2.2.row (hstep m hm).1 id
    rw [ha, hb] at hrow
    exact hrow.successor
  case idle => exact fun m hm hidle => hidle.unchanged (hstep m hm).2.2
  case looked => exact fun m hm q he => (hstep m hm).2.2.not_replays he
  case single =>
    intro i ctx op action r hi hr hcause
    have hshows := (shows_look_then_end ⟨ctx, op, action⟩).map Answer.row
    have hcall : (start calls supply).calls[i]? = some (process ctx (.single op action)) := by
      simp [start, hi]
    obtain ⟨x, hevents, rfl⟩ := World.play_shows (start calls supply) turns hcall hshows hr
    have hcause : (∃ f, x = .error f) ∨ ∃ m ∈ ((start calls supply).play turns).1,
        m.call = i ∧ Replays ⟨ctx, op, action⟩ m.before :=
      hcause.imp_left fun h => h.imp fun _ hf => error_of_map hf.symm
    intro m hm hmi
    have hidle := idle_of_events (fun m hm => (hstep m hm).2.2) hevents hcause m hm hmi
    exact hidle.unchanged (hstep m hm).2.2
  case execute =>
    intro supply' ctx op action hcause
    exact execute_idle (q := ⟨ctx, op, action⟩) hcause

end Queue

end Backoffice.Assignment

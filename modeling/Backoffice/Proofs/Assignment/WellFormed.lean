import Backoffice.Proofs.Assignment.Rows
import Backoffice.Proofs.Text.Key

namespace Backoffice.Assignment

structure Staffed (a : Assignment) : Prop where
  pending_iff : a.status ≠ .archived → (a.status = .pending ↔ a.pool = .openPool)
  pool_iff : a.pool = .openPool ↔ a.assigneeId = none
  assignee : ∀ u, a.assigneeId = some u → Text.blank u = false

structure Stamped (a : Assignment) : Prop where
  claimed : a.status ∈ [.inProgress, .review] → a.claimedAt.isSome
  submitted : a.status ∈ [.review, .rejected, .approved, .published] → a.submittedAt.isSome
  reviewed : a.status ∈ [.rejected, .approved, .published] →
    a.reviewedAt.isSome ∧ ∃ u, a.reviewerId = some u ∧ Text.blank u = false
  accepted : a.status ∈ [.approved, .published] → a.rejectionReason = none
  published : a.publishedAt.isSome ↔ a.status = .published
  archived : a.archivedAt.isSome ↔ a.status = .archived

structure WellFormed (a : Assignment) : Prop extends Staffed a, Stamped a where
  valid : a.validate = .ok ()
  version : 1 ≤ a.version
  keyed : a.lastOperation.isSome ↔ a.lastKey.isSome

theorem validate_eq_ok {a : Assignment} : a.validate = .ok () ↔
    (∀ field ∈ a.requiredTexts, Text.blank field.2 = false) ∧ a.sourceLocale ≠ a.targetLocale ∧
      (a.pool = .assigned → a.assigneeId ≠ none) := by
  unfold validate
  generalize h : a.requiredTexts.find? _ = found
  cases found with
  | none =>
    have htexts : ∀ field ∈ a.requiredTexts, Text.blank field.2 = false := by
      simpa using List.find?_eq_none.1 h
    rw [iff_true_intro htexts, true_and]
    simp only [bind, Except.bind, pure, Except.pure]
    repeat' split
    all_goals simp_all
  | some field =>
    have hblank := List.find?_some h
    constructor
    · intro hok
      cases hok
    · rintro ⟨htexts, -⟩
      simp [htexts field (List.mem_of_find?_eq_some h)] at hblank

namespace Operation

variable {op : Operation} {a b : Assignment} {action : Action} {now : Instant}

theorem Effect.staffed (h : Effect action now a op b) (hactor : Text.blank action.actorId = false)
    (ha : Staffed a) : Staffed b := by
  obtain ⟨hpending, hpool, hassignee⟩ := ha
  cases h with
  | takeUp => constructor <;> simp_all [taken]
  | resume hs => rcases hs with hs | hs <;> constructor <;> simp_all [taken]
  | handOver hs hnamed =>
    obtain ⟨_, -, hnamed⟩ := Option.bind_eq_some_iff.1 hnamed
    constructor <;> simp [Text.blank_of_nonBlank hnamed]
  | giveBack => constructor <;> simp
  | submit | accept | turnDown | bringOut | putAway => constructor <;> simp_all

theorem Effect.stamped (h : Effect action now a op b) (hactor : Text.blank action.actorId = false)
    (ha : Stamped a) : Stamped b := by
  obtain ⟨hclaimed, hsubmitted, hreviewed, haccepted, hpublished, harchived⟩ := ha
  cases h with
  | takeUp => constructor <;> simp_all [taken]
  | resume hs => rcases hs with hs | hs <;> constructor <;> simp_all [taken]
  | handOver hs => rcases hs with hs | hs | hs <;> constructor <;> simp_all
  | giveBack hs => rcases hs with hs | hs <;> constructor <;> simp_all
  | submit | accept | turnDown | bringOut => constructor <;> simp_all
  | putAway hs =>
    have hopen : a.status ≠ .published := by
      intro hclosed
      simp [hclosed, Status.isTerminal] at hs
    constructor <;> simp_all

end Operation

theorem Draft.staffed (d : Draft) (actor : String) (now : Instant) (fresh : String) :
    Staffed (d.assignment actor now fresh) := by
  cases h : d.assigneeId.bind Text.nonBlank with
  | none => constructor <;> simp [Draft.assignment, h]
  | some u =>
    obtain ⟨_, -, hnamed⟩ := Option.bind_eq_some_iff.1 h
    constructor <;> simp [Draft.assignment, h, Text.blank_of_nonBlank hnamed]

theorem Draft.stamped (d : Draft) (actor : String) (now : Instant) (fresh : String) :
    Stamped (d.assignment actor now fresh) := by
  cases h : d.assigneeId.bind Text.nonBlank <;> constructor <;> simp [Draft.assignment, h]

theorem Draft.wellFormed {d : Draft} {actor : String} {now : Instant} {fresh : String}
    (h : (d.assignment actor now fresh).validate = .ok ()) :
    WellFormed (d.assignment actor now fresh) where
  toStaffed := d.staffed actor now fresh
  toStamped := d.stamped actor now fresh
  valid := h
  version := Nat.le_refl 1
  keyed := by simp [Draft.assignment]

theorem Action.actor_of_validate {action : Action} (h : action.validate = .ok ()) :
    Text.blank action.actorId = false := by
  simp only [validate, refuse_eq_ok] at h
  obtain ⟨-, -, h⟩ := h
  split at h
  · cases h
  · simp_all

theorem WellFormed.claim {a : Assignment} (h : WellFormed a) (hpending : a.status = .pending)
    (action : Action) (now : Instant) : ∃ b, Operation.claim.apply a action now = .ok b := by
  have hpool : a.pool = .openPool := (h.pending_iff (by simp [hpending])).1 hpending
  simp [Operation.apply, hpending, hpool]

namespace Queue

theorem Advances.texts {q : Request} {current row : Assignment} (h : Advances q current row) :
    row.requiredTexts = current.requiredTexts ∧ row.sourceLocale = current.sourceLocale ∧
      row.targetLocale = current.targetLocale := by
  rw [h.frame]
  exact ⟨rfl, rfl, rfl⟩

theorem Advances.staffed {q : Request} {current row : Assignment} (h : Advances q current row)
    (hactor : Text.blank q.filled.actorId = false) (hcurrent : Staffed current) : Staffed row := by
  obtain ⟨now, next, heffect, rfl⟩ := h.effect
  obtain ⟨hpending, hpool, hassignee⟩ := heffect.staffed hactor hcurrent
  exact ⟨hpending, hpool, hassignee⟩

theorem Advances.stamped {q : Request} {current row : Assignment} (h : Advances q current row)
    (hactor : Text.blank q.filled.actorId = false) (hcurrent : Stamped current) : Stamped row := by
  obtain ⟨now, next, heffect, rfl⟩ := h.effect
  obtain ⟨hclaimed, hsubmitted, hreviewed, haccepted, hpublished, harchived⟩ :=
    heffect.stamped hactor hcurrent
  exact ⟨hclaimed, hsubmitted, hreviewed, haccepted, hpublished, harchived⟩

theorem Advances.wellFormed {q : Request} {current row : Assignment} (h : Advances q current row)
    (hentered : q.filled.validate = .ok ()) (hcurrent : WellFormed current) : WellFormed row := by
  have hactor := Action.actor_of_validate hentered
  have hstaffed := h.staffed hactor hcurrent.toStaffed
  constructor
  case toStaffed => exact hstaffed
  case toStamped => exact h.stamped hactor hcurrent.toStamped
  case valid =>
    obtain ⟨htexts, hsource, htarget⟩ := h.texts
    obtain ⟨hrequired, hlocales, -⟩ := validate_eq_ok.1 hcurrent.valid
    rw [validate_eq_ok, htexts, hsource, htarget]
    refine ⟨hrequired, hlocales, fun hassigned hnone => ?_⟩
    -- without an assignee the row is back in the open pool
    rw [hstaffed.pool_iff.2 hnone] at hassigned
    cases hassigned
  case version => simp [h.version]
  case keyed =>
    rw [h.frame]
    simp

theorem RowStep.wellFormed {e : Event} {row row' : Option Assignment} (h : RowStep e row row')
    (hrow : ∀ a, row = some a → WellFormed a) : ∀ a, row' = some a → WellFormed a := by
  cases h with
  | same => exact hrow
  | begun he hvalid =>
    intro a ha
    cases ha
    exact Draft.wellFormed hvalid
  | advanced he hentered hadv =>
    intro a ha
    cases ha
    exact hadv.wellFormed hentered (hrow _ rfl)

theorem rows_of_run {s t : Store} {ms : List (Moment Event Store)} (hrun : warrant.Allows s ms t)
    (hs : Filed s) (hrows : ∀ id a, s.rows.get? id = some a → WellFormed a) :
    (∀ id a, t.rows.get? id = some a → WellFormed a) ∧
      ∀ m ∈ ms, ∀ id a, m.before.rows.get? id = some a → WellFormed a := by
  apply hrun.invariant hs hrows
  intro e s t hs hwarranted hrows id
  exact (hwarranted.row hs id).wellFormed (hrows id)

/-- All rows are well formed, and claims of pending rows are available. -/
structure Orderly (ms : List (Moment Event Store)) (s : Store) : Prop where
  rows : ∀ a ∈ s.rows.values, WellFormed a
  claim : ∀ a ∈ s.rows.values, a.status = .pending →
    ∀ action now, ∃ b, Operation.claim.apply a action now = .ok b
  execute : ∀ supply ctx action a, s.rows.get? action.id = some a → a.status = .pending →
    ∀ f, (execute ctx .claim action (supply, s)).1 = .error f → ¬Unavailable f
  ended : ∀ m ∈ ms, ∀ q f a, m.event = .ended q (.error f) → q.op = .claim →
    m.before.rows.get? q.action.id = some a → a.status = .pending → ¬Unavailable f

theorem execute_unavailable {q : Request} {supply : Supply} {s : Store} {f : Fault}
    (h : (execute q.ctx q.op q.action (supply, s)).1 = .error f) (hf : Unavailable f) :
    ∃ a now, s.rows.get? q.action.id = some a ∧ q.op.apply a q.filled now = .error f := by
  rcases execute_cases q supply s with ⟨_, _, hlook, heq⟩ | ⟨_, _, -, heq⟩ | ⟨row, supply', -, heq⟩
  · rw [heq] at h
    cases h
    rcases look_eq_error hlook with hplain | hrow
    · exact absurd hf hplain.available
    · exact hrow
  · rw [heq] at h
    cases h
  · rw [heq] at h
    exact absurd hf (commit_available h)

theorem rows_well_formed (calls : List (Context × Command)) (supply : Supply)
    (turns : List Turn) :
    Orderly ((start calls supply).play turns).1 ((start calls supply).play turns).2.state := by
  have hrun := play_warranted calls supply turns
  obtain ⟨hend, hbefore⟩ := rows_of_run hrun filed_empty (by simp [Store.empty])
  have hclaim : ∀ {a}, WellFormed a → a.status = .pending → ∀ action now f,
      Operation.claim.apply a action now ≠ .error f := by
    intro a ha hpending action now f
    obtain ⟨b, hb⟩ := ha.claim hpending action now
    simp [hb]
  constructor
  case rows =>
    intro a ha
    obtain ⟨id, ha⟩ := (Dict.mem_values_iff _ _).1 ha
    exact hend id a ha
  case claim =>
    intro a ha
    obtain ⟨id, ha⟩ := (Dict.mem_values_iff _ _).1 ha
    exact (hend id a ha).claim
  case execute =>
    intro supply' ctx action a ha hpending f hf hunavailable
    obtain ⟨b, now, hb, happly⟩ := execute_unavailable (q := ⟨ctx, .claim, action⟩) hf hunavailable
    cases ha.symm.trans hb
    exact hclaim (hend _ _ ha) hpending _ _ _ happly
  case ended =>
    intro m hm q f a he hop ha hpending hunavailable
    obtain ⟨b, now, hb, happly⟩ :=
      (hrun.moment filed_empty hm).2.2.unavailable q f he hunavailable
    cases ha.symm.trans hb
    rw [hop] at happly
    exact hclaim (hbefore m hm _ _ ha) hpending _ _ _ happly

end Queue

end Backoffice.Assignment

import Backoffice.Assignment.Queue

namespace Backoffice.Assignment

def Status.successors : Status → List Status
  | pending => [inProgress, assigned, archived]
  | assigned => [inProgress, assigned, pending, archived]
  | inProgress => [review, pending, archived]
  | review => [approved, rejected, archived]
  | approved => [published, archived]
  | rejected => [inProgress, assigned, archived]
  | published | archived => []

def Status.entry : Status → Option (Operation × Status)
  | review => some (.submitReview, inProgress)
  | approved => some (.approve, review)
  | rejected => some (.reject, review)
  | published => some (.publish, approved)
  | _ => none

namespace Operation

inductive Effect (action : Action) (now : Instant) (a : Assignment) : Operation → Assignment → Prop
  | takeUp : a.status = .pending → a.pool = .openPool → Effect action now a claim
      (taken { a with assigneeId := some action.actorId, pool := .assigned } now)
  | resume : a.status = .assigned ∨ a.status = .rejected →
      a.assigneeId = some action.actorId → Effect action now a claim (taken a now)
  | handOver {assignee : String} :
      a.status = .pending ∨ a.status = .assigned ∨ a.status = .rejected →
      action.assigneeId.bind Text.nonBlank = some assignee → Effect action now a assign
        { a with
          assigneeId := some assignee, assignerId := some action.actorId, pool := .assigned,
          status := .assigned }
  | giveBack : a.status = .assigned ∨ a.status = .inProgress → Effect action now a release
      { a with assigneeId := none, pool := .openPool, status := .pending, claimedAt := none }
  | submit : a.status = .inProgress → a.assigneeId = some action.actorId →
      Effect action now a submitReview { a with status := .review, submittedAt := some now }
  | accept : a.status = .review → Effect action now a approve
      { a with
        status := .approved, reviewerId := some action.actorId, reviewedAt := some now,
        rejectionReason := none }
  | turnDown : a.status = .review → Effect action now a reject
      { a with
        status := .rejected, reviewerId := some action.actorId, reviewedAt := some now,
        rejectionReason := action.reason.bind Text.nonBlank }
  | bringOut : a.status = .approved → Effect action now a publish
      { a with status := .published, publishedAt := some now }
  | putAway : a.status.isTerminal = false → Effect action now a archive
      { a with status := .archived, archivedAt := some now }

variable {op : Operation} {a b : Assignment} {action : Action} {now : Instant}

theorem effect_of_apply (h : op.apply a action now = .ok b) : Effect action now a op b := by
  cases op with
  | claim =>
    cases hs : a.status <;> simp only [apply, hs, reduceCtorEq] at h
    case pending =>
      split at h <;> cases h
      exact .takeUp hs (by simp_all)
    all_goals
      split at h <;> cases h
      exact .resume (by simp [hs]) (by simp_all)
  | assign =>
    cases hs : a.status <;> simp only [apply, hs, reduceCtorEq] at h
    all_goals
      split at h <;> cases h
      exact .handOver (by simp [hs]) (by assumption)
  | release =>
    cases hs : a.status <;> simp only [apply, hs, reduceCtorEq] at h
    all_goals
      cases h
      exact .giveBack (by simp [hs])
  | submitReview =>
    cases hs : a.status <;> simp only [apply, hs, reduceCtorEq] at h
    split at h <;> cases h
    exact .submit hs (by simp_all)
  | approve =>
    cases hs : a.status <;> simp only [apply, hs, reduceCtorEq] at h
    cases h
    exact .accept hs
  | reject =>
    cases hs : a.status <;> simp only [apply, hs, reduceCtorEq] at h
    cases h
    exact .turnDown hs
  | publish =>
    cases hs : a.status <;> simp only [apply, hs, reduceCtorEq] at h
    cases h
    exact .bringOut hs
  | archive =>
    simp only [apply] at h
    split at h <;> cases h
    exact .putAway (by simp_all)

theorem Effect.successor (h : Effect action now a op b) : b.status ∈ a.status.successors := by
  cases h with
  | takeUp hs => simp [taken, hs, Status.successors]
  | resume hs => rcases hs with hs | hs <;> simp [taken, hs, Status.successors]
  | handOver hs => rcases hs with hs | hs | hs <;> simp [hs, Status.successors]
  | giveBack hs => rcases hs with hs | hs <;> simp [hs, Status.successors]
  | submit hs | accept hs | turnDown hs | bringOut hs => simp [hs, Status.successors]
  | putAway hs => cases hstatus : a.status <;> simp_all [Status.successors, Status.isTerminal]

theorem Effect.entry (h : Effect action now a op b) {op' : Operation} {status : Status}
    (hb : b.status.entry = some (op', status)) :
    op = op' ∧ a.status = status ∧ b.assigneeId = a.assigneeId := by
  cases h <;> simp_all [taken, Status.entry]

theorem Effect.claimed (h : Effect action now a op b) (hb : b.status = .inProgress) :
    op = claim ∧ b.assigneeId = some action.actorId := by
  cases h <;> simp_all [taken]

theorem Effect.submitted (h : Effect action now a op b) (hb : b.status = .review) :
    b.assigneeId = some action.actorId := by
  cases h <;> simp_all [taken]

end Operation

end Backoffice.Assignment

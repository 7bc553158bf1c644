import Backoffice.Proofs.Call
import Backoffice.Proofs.Dict
import Backoffice.Proofs.Text.Key
import Backoffice.Workflow.Policy

namespace Backoffice.Workflow

namespace LocalePolicy

abbrev Lookup := String → String → Except Fault (List String)

/-- One step of putting a policy together. -/
inductive Clause where
  | selecting (transition : String)
  | requiring (environment : String) (locales : List String)

def add (p : LocalePolicy) : Clause → LocalePolicy
  | .selecting transition => p.forTransition transition
  | .requiring environment locales => p.require environment locales

def ofClauses (lookup : Lookup) (clauses : List Clause) : LocalePolicy :=
  clauses.foldl add (new lookup)

def Selects (clauses : List Clause) (transition : String) : Prop :=
  ∃ t, .selecting t ∈ clauses ∧ Text.key t = Text.key transition

def Clause.requires? (environment : String) : Clause → Option (List String)
  | .selecting _ => none
  | .requiring e locales =>
    if Text.key e = Text.key environment then some (locales.map Text.key) else none

def ownRequired (clauses : List Clause) (environment : String) : Option (List String) :=
  (clauses.filterMap (·.requires? environment)).getLast?

def requiredIn (clauses : List Clause) (environment : String) : List String :=
  ((ownRequired clauses environment).or (ownRequired clauses "")).getD []

variable {clauses : List Clause} {lookup : Lookup} {p : LocalePolicy}

theorem selects_cons {c : Clause} {transition : String} : Selects (c :: clauses) transition ↔
    (∃ t, c = .selecting t ∧ Text.key t = Text.key transition) ∨ Selects clauses transition := by
  simp only [Selects, List.mem_cons, or_and_right, exists_or, eq_comm]

theorem mem_transitions_foldl {transition : String} :
    Text.key transition ∈ (clauses.foldl add p).transitions ↔
      Selects clauses transition ∨ Text.key transition ∈ p.transitions := by
  induction clauses generalizing p with
  | nil => simp [Selects]
  | cons c clauses ih =>
    rw [List.foldl_cons, ih, selects_cons]
    cases c with
    | selecting t => simp [add, forTransition, eq_comm, or_left_comm, or_assoc]
    | requiring e locales => simp [add, require]

theorem ownRequired_cons (c : Clause) (clauses : List Clause) (environment : String) :
    ownRequired (c :: clauses) environment =
      (ownRequired clauses environment).or (c.requires? environment) := by
  unfold ownRequired
  cases h : c.requires? environment with
  | none => simp [h]
  | some locales =>
    rw [List.filterMap_cons_some h, List.getLast?_cons]
    cases (clauses.filterMap (·.requires? environment)).getLast? <;> rfl

theorem get?_required_foldl (environment : String) :
    (clauses.foldl add p).required.get? (Text.key environment) =
      (ownRequired clauses environment).or (p.required.get? (Text.key environment)) := by
  induction clauses generalizing p with
  | nil => rfl
  | cons c clauses ih =>
    rw [List.foldl_cons, ih, ownRequired_cons, Option.or_assoc]
    congr 1
    cases c with
    | selecting t => rfl
    | requiring e locales =>
      rw [add, require, Dict.get?_set, Clause.requires?]
      by_cases h : Text.key e = Text.key environment
      · simp [h]
      · simp [h, Ne.symm h]

theorem requiredFor_ofClauses (environment : String) :
    (ofClauses lookup clauses).requiredFor (Text.key environment) =
      requiredIn clauses environment := by
  have hempty : Text.key "" = "" := by decide
  have hown (e : String) :
      (ofClauses lookup clauses).required.get? (Text.key e) = ownRequired clauses e := by
    rw [ofClauses, get?_required_foldl]
    exact Option.or_none
  rw [requiredFor, requiredIn, hown, ← hown "", hempty]

theorem mem_transitions_ofClauses {transition : String} :
    Text.key transition ∈ (ofClauses lookup clauses).transitions ↔ Selects clauses transition := by
  rw [ofClauses, mem_transitions_foldl]
  simp [new]

theorem ofClauses_answering (lookup' : Lookup) :
    { ofClauses lookup clauses with available := lookup' } = ofClauses lookup' clauses := by
  suffices h : ∀ p : LocalePolicy, { clauses.foldl add p with available := lookup' } =
      clauses.foldl add { p with available := lookup' } from h (new lookup)
  intro p
  induction clauses generalizing p with
  | nil => rfl
  | cons c clauses ih =>
    rw [List.foldl_cons, List.foldl_cons, ih]
    cases c <;> rfl

theorem available_ofClauses : (ofClauses lookup clauses).available = lookup :=
  (congrArg available (@ofClauses_answering clauses lookup lookup)).symm

end LocalePolicy

open LocalePolicy

def vetoed : Except Fault Unit → Bool
  | .ok _ => false
  | .error f => match f.root with
    | .missingLocales _ => true
    | _ => false

theorem vetoed_error_iff {f : Fault} :
    vetoed (.error f) = true ↔ ∃ b, f.root = .missingLocales b := by
  change (match f.root with | .missingLocales _ => true | _ => false) = true ↔ _
  split <;> simp_all

def Attempt.labels (a : Attempt) : VetoLabels :=
  ⟨a.entityType, a.environment, a.requestedLocale, a.transition⟩

/-- A check, with what its lookup would answer at the time. -/
structure Check where
  attempt : Attempt
  lookup : Lookup

namespace Check

def answer (c : Check) : Except Fault (List String) :=
  c.lookup c.attempt.entityType c.attempt.entityId

def outcome (clauses : List Clause) (c : Check) : Except Fault Unit :=
  (ofClauses c.lookup clauses).apply c.attempt

def missing (clauses : List Clause) (c : Check) (available : List String) : List String :=
  (requiredIn clauses c.attempt.environment).filter fun l =>
    !(available.map Text.key).contains l

def block (c : Check) (missing : List String) : LocaleBlock where
  entityType := c.attempt.entityType
  entityId := c.attempt.entityId
  transition := c.attempt.transition
  environment := c.attempt.environment
  requestedLocale := c.attempt.requestedLocale
  missing := missing

/-- The outcome is what the clauses ask for: a veto that lists the missing locales, or the failure
of a lookup that had to be made. Such a failure counts as a veto if it is one in command frames. -/
structure Answered (clauses : List Clause) (c : Check) (r : Except Fault Unit) : Prop where
  veto : ∀ b, r = .error (.missingLocales b) ↔ Selects clauses c.attempt.transition ∧
    ∃ available, c.answer = .ok available ∧ c.missing clauses available ≠ [] ∧
      b = c.block (c.missing clauses available)
  failure : ∀ f, (∀ b, f ≠ .missingLocales b) → (r = .error f ↔
    Selects clauses c.attempt.transition ∧ requiredIn clauses c.attempt.environment ≠ [] ∧
      c.answer = .error f)
  counted : vetoed r = true ↔ (∃ b, r = .error (.missingLocales b)) ∨
    ∃ f b, r = .error f ∧ c.answer = .error f ∧ f.root = .missingLocales b

variable {clauses : List Clause} {c : Check}

def Due (clauses : List Clause) (c : Check) : Prop :=
  Selects clauses c.attempt.transition ∧ requiredIn clauses c.attempt.environment ≠ []

open Classical in
theorem outcome_eq : c.outcome clauses =
    if c.Due clauses then
      c.answer >>= fun available =>
        if c.missing clauses available = [] then .ok ()
        else .error (.missingLocales (c.block (c.missing clauses available)))
    else .ok () := by
  have hguard : (!(ofClauses c.lookup clauses).transitions.contains
      (Text.key c.attempt.transition) || (requiredIn clauses c.attempt.environment).isEmpty) =
        !decide (c.Due clauses) := by
    rw [Bool.eq_iff_iff, Bool.not_eq_true', decide_eq_false_iff_not, Due, not_and_or, not_not]
    simp [mem_transitions_ofClauses]
  unfold outcome LocalePolicy.apply
  simp only [requiredFor_ofClauses, available_ofClauses, hguard]
  by_cases hdue : c.Due clauses
  · rw [if_pos hdue, decide_eq_true hdue, Bool.not_true, if_neg Bool.false_ne_true, answer]
    cases c.lookup c.attempt.entityType c.attempt.entityId with
    | error f => rfl
    | ok available =>
      dsimp only [bind, Except.bind]
      split
      · rename_i hnone
        exact (if_pos hnone).symm
      · rename_i hsome
        exact (if_neg hsome).symm
  · rw [if_neg hdue, decide_eq_false hdue]
    rfl

theorem outcome_eq_error_iff {f : Fault} :
    c.outcome clauses = .error f ↔
      c.Due clauses ∧ (c.answer = .error f ∨ ∃ available, c.answer = .ok available ∧
        c.missing clauses available ≠ [] ∧
          f = .missingLocales (c.block (c.missing clauses available))) := by
  rw [outcome_eq]
  split
  · rename_i hdue
    have hveto (ls : List String) : (if ls = [] then .ok () else .error (.missingLocales (c.block ls)))
        = (.error f : Except Fault Unit) ↔ ls ≠ [] ∧ f = .missingLocales (c.block ls) := by
      split <;> simp_all [eq_comm]
    simp only [bind_eq_error, hveto, hdue, true_and]
  · rename_i hdue
    simp [hdue]

theorem answered_outcome (hown : ∀ b, c.answer ≠ .error (.missingLocales b)) :
    c.Answered clauses (c.outcome clauses) := by
  constructor
  case veto =>
    intro b
    have hdue {available : List String} (h : c.missing clauses available ≠ []) :
        requiredIn clauses c.attempt.environment ≠ [] := by
      intro hnone
      exact h (by rw [missing, hnone, List.filter_nil])
    simp only [outcome_eq_error_iff, Due, hown b, false_or, Fault.missingLocales.injEq]
    constructor
    · rintro ⟨⟨hselects, -⟩, hveto⟩
      exact ⟨hselects, hveto⟩
    · rintro ⟨hselects, available, ha, hm, hb⟩
      exact ⟨⟨hselects, hdue hm⟩, available, ha, hm, hb⟩
  case failure =>
    intro f hf
    have hveto : ∀ available, f ≠ .missingLocales (c.block (c.missing clauses available)) :=
      fun available => hf _
    simp [outcome_eq_error_iff, Due, and_assoc, hveto]
  case counted =>
    constructor
    · intro hv
      cases hr : c.outcome clauses with
      | ok u =>
        rw [hr] at hv
        cases hv
      | error f =>
        rw [hr] at hv
        obtain ⟨b, hroot⟩ := vetoed_error_iff.1 hv
        rcases (outcome_eq_error_iff.1 hr).2 with ha | ⟨available, -, -, rfl⟩
        · exact .inr ⟨f, b, rfl, ha, hroot⟩
        · exact .inl ⟨_, rfl⟩
    · rintro (⟨b, hr⟩ | ⟨f, b, hr, -, hroot⟩)
      · rw [hr]
        rfl
      · rw [hr]
        exact vetoed_error_iff.2 ⟨b, hroot⟩

end Check

namespace VetoCounts

variable (series : VetoLabels.Series)

def count (cs : VetoCounts) (l : VetoLabels) : Nat := (touch series cs l).1

theorem count_eq (cs : VetoCounts) (l : VetoLabels) :
    count series cs l = ((cs.find? fun c => series c.1 == series l).map (·.2)).getD 0 := by
  unfold count touch
  cases cs.find? fun c => series c.1 == series l <;> rfl

variable {series} {l m : VetoLabels}

theorem find?_touch_self (cs : VetoCounts) (h : series l = series m) :
    ∃ k, (touch series cs l).2.find? (fun c => series c.1 == series m) =
      some (k, count series cs m) ∧ series k = series l := by
  unfold count touch
  rw [h]
  cases hfind : cs.find? fun c => series c.1 == series m with
  | none => exact ⟨l, by simp [h], h⟩
  | some e => exact ⟨e.1, hfind, by simpa using List.find?_some hfind⟩

theorem find?_touch_of_ne (cs : VetoCounts) (h : series l ≠ series m) :
    (touch series cs l).2.find? (fun c => series c.1 == series m) =
      cs.find? fun c => series c.1 == series m := by
  unfold touch
  cases cs.find? fun c => series c.1 == series l <;> simp [h]

theorem find?_map_of_labels {f : VetoLabels × Nat → VetoLabels × Nat} (hf : ∀ e, (f e).1 = e.1)
    (cs : VetoCounts) (m : VetoLabels) :
    (cs.map f).find? (fun c => series c.1 == series m) =
      (cs.find? fun c => series c.1 == series m).map f := by
  simp only [List.find?_map, Function.comp_def, hf]

theorem count_increment (cs : VetoCounts) (l m : VetoLabels) :
    count series (increment series cs l) m =
      count series cs m + if series l = series m then 1 else 0 := by
  have hlabels : ∀ e : VetoLabels × Nat,
      (if series e.1 == series l then (e.1, e.2 + 1) else (e.1, e.2)).1 = e.1 := by
    intro e
    split <;> rfl
  rw [count_eq, increment, find?_map_of_labels hlabels]
  by_cases h : series l = series m
  · obtain ⟨k, hfind, hk⟩ := find?_touch_self cs h
    simp [hfind, hk, h]
  · rw [find?_touch_of_ne cs h, count_eq, if_neg h]
    cases hfind : cs.find? fun c => series c.1 == series m with
    | none => rfl
    | some e =>
      have he : series e.1 = series m := by simpa using List.find?_some hfind
      simp [he, Ne.symm h]

end VetoCounts

namespace Enforcer

theorem check_apply {p : LocalePolicy} (a : Attempt) (supply : Supply)
    (series : VetoLabels.Series) (counts : VetoCounts) :
    check a (supply, ⟨some p, series, counts⟩) = (p.apply a, supply, ⟨some p, series,
      if vetoed (p.apply a) then counts.increment series a.labels else counts⟩) := by
  rw [check, Call.bind_apply, Call.state_apply]
  cases h : p.apply a with
  | ok u =>
    simp only [h]
    rfl
  | error f =>
    simp only [h]
    by_cases hv : vetoed (.error f) = true
    · obtain ⟨b, hroot⟩ := vetoed_error_iff.1 hv
      rw [if_pos hv, hroot]
      rfl
    · rw [if_neg hv]
      cases hroot : f.root with
      | missingLocales b => exact absurd (vetoed_error_iff.2 ⟨b, hroot⟩) hv
      | _ => rfl

def enforcing (series : VetoLabels.Series) (lookup : Lookup) (clauses : List Clause)
    (counts : VetoCounts) : Enforcer :=
  ⟨some (ofClauses lookup clauses), series, counts⟩

def answering (lookup : Lookup) (e : Enforcer) : Enforcer :=
  { e with policy := e.policy.map fun p => { p with available := lookup } }

theorem answering_enforcing (series : VetoLabels.Series) (lookup lookup' : Lookup)
    (clauses : List Clause) (counts : VetoCounts) :
    (enforcing series lookup clauses counts).answering lookup' =
      enforcing series lookup' clauses counts := by
  rw [enforcing, enforcing, answering, Option.map_some, ofClauses_answering]

end Enforcer

namespace Check

def perform (c : Check) : Call Enforcer Unit := do
  Call.change (Enforcer.answering c.lookup)
  Enforcer.check c.attempt

def run : List Check → Supply × Enforcer → List (Check × Except Fault Unit) × Enforcer
  | [], s => ([], s.2)
  | c :: cs, s => ((c, (c.perform s).1) :: (run cs (c.perform s).2).1, (run cs (c.perform s).2).2)

def vetoes (log : List (Check × Except Fault Unit)) : List VetoLabels :=
  (log.filter fun e => vetoed e.2).map fun e => e.1.attempt.labels

variable (series : VetoLabels.Series) (clauses : List Clause) (lookup : Lookup) (supply : Supply)
  (counts : VetoCounts)

theorem perform_apply (c : Check) : c.perform (supply, .enforcing series lookup clauses counts) =
    (c.outcome clauses, supply, .enforcing series c.lookup clauses
      (if vetoed (c.outcome clauses) then counts.increment series c.attempt.labels
        else counts)) := by
  rw [perform, Call.bind_apply, Call.change_apply, Enforcer.answering_enforcing]
  exact Enforcer.check_apply c.attempt supply series counts

theorem log_run (checks : List Check) :
    (run checks (supply, .enforcing series lookup clauses counts)).1 =
      checks.map fun c => (c, c.outcome clauses) := by
  induction checks generalizing lookup counts with
  | nil => rfl
  | cons c checks ih => simp only [run, perform_apply, ih, List.map_cons]

theorem count_run (checks : List Check) (labels : VetoLabels) :
    (run checks (supply, .enforcing series lookup clauses counts)).2.counts.count series labels =
      counts.count series labels + (vetoes (checks.map fun c => (c, c.outcome clauses))).countP
        (series · == series labels) := by
  induction checks generalizing lookup counts with
  | nil => rfl
  | cons c checks ih =>
    simp only [run, perform_apply, ih, vetoes, List.map_cons, List.filter_cons]
    split
    · simp only [VetoCounts.count_increment, List.map_cons, List.countP_cons, beq_iff_eq]
      omega
    · rfl

theorem countP_series_eq_count_iff (vs : List VetoLabels) (labels : VetoLabels) :
    vs.countP (series · == series labels) = vs.count labels ↔
      ∀ l ∈ vs, series l = series labels → l = labels := by
  have hsame : vs.count labels =
      (vs.filter (series · == series labels)).countP (· == labels) := by
    rw [List.countP_filter, List.count]
    refine List.countP_congr fun l _ => ?_
    simp only [Bool.and_eq_true, beq_iff_eq]
    exact ⟨fun h => ⟨h, h ▸ rfl⟩, And.left⟩
  rw [hsame, List.countP_eq_length_filter, eq_comm, List.countP_eq_length]
  simp

/-- Each check is answered as the clauses ask. A counter shows how many checks were vetoed under
labels that it is kept for, and so under its own labels only if all of these are. -/
theorem blocked_counts (checks : List Check) (labels : VetoLabels)
    (hown : ∀ c ∈ checks, ∀ b, c.answer ≠ .error (.missingLocales b)) :
    let final := run checks (supply, .enforcing series lookup clauses [])
    final.1.map (·.1) = checks ∧ (∀ e ∈ final.1, e.1.Answered clauses e.2) ∧
      final.2.counts.count series labels =
        (vetoes final.1).countP (series · == series labels) ∧
      (final.2.counts.count series labels = (vetoes final.1).count labels ↔
        ∀ l ∈ vetoes final.1, series l = series labels → l = labels) ∧
      (Function.Injective series →
        final.2.counts.count series labels = (vetoes final.1).count labels) := by
  intro final
  have hlog : final.1 = checks.map fun c => (c, c.outcome clauses) :=
    log_run series clauses lookup supply [] checks
  have hcount : final.2.counts.count series labels =
      (vetoes final.1).countP (series · == series labels) := by
    rw [hlog]
    exact (count_run series clauses lookup supply [] checks labels).trans (Nat.zero_add _)
  have hexact := countP_series_eq_count_iff series (vetoes final.1) labels
  rw [← hcount] at hexact
  refine ⟨by simp [hlog, Function.comp_def], ?_, hcount, hexact, ?_⟩
  · intro e he
    rw [hlog, List.mem_map] at he
    obtain ⟨c, hc, rfl⟩ := he
    exact answered_outcome (hown c hc)
  · intro hinj
    exact hexact.2 fun l _ hl => hinj hl

/-- A veto, a lookup that fails and a check that passes. -/
theorem blocked_counts_mixed :
    let series : VetoLabels.Series := fun l => l.entity ++ l.transition ++ l.locale ++ l.environment
    let clauses : List Clause := [.selecting " Publish", .requiring "" ["EN", "es"]]
    let page : Attempt := ⟨"page", "1", "publish", "live", "es", []⟩
    let checks : List Check := [⟨page, fun _ _ => .ok ["En"]⟩, ⟨page, fun _ _ => .error .cancelled⟩,
      ⟨page, fun _ _ => .ok ["es", "en"]⟩]
    let final := run checks (⟨default, 0⟩, .enforcing series (fun _ _ => .ok []) clauses [])
    final.1.map (·.2) = [.error (.missingLocales ⟨"page", "1", "publish", "live", "es", ["es"]⟩),
      .error .cancelled, .ok ()] ∧ final.2.counts.count series page.labels = 1 := by
  intro series clauses page checks final
  have hown : ∀ c ∈ checks, ∀ b, c.answer ≠ .error (.missingLocales b) := by
    simp [checks, answer]
  obtain ⟨-, -, hcount, -⟩ := blocked_counts series clauses (fun _ _ => .ok []) ⟨default, 0⟩
    checks page.labels hown
  exact ⟨by decide +kernel, hcount.trans (by decide +kernel)⟩

/-- Where a counter is kept for label values that run together to the same text, a veto of publishing
`pages` is shown for another type and transition as well. -/
theorem shared_counter :
    let series : VetoLabels.Series := fun l => l.entity ++ l.transition ++ l.locale ++ l.environment
    let c : Check := ⟨⟨"pages", "1", "publish", "", "", []⟩, fun _ _ => .ok []⟩
    let other : VetoLabels := ⟨"page", "", "", "spublish"⟩
    let final := run [c] (⟨default, 0⟩,
      .enforcing series c.lookup [.selecting "publish", .requiring "" ["en"]] [])
    final.2.counts.count series other = 1 ∧ (vetoes final.1).count other = 0 := by
  decide +kernel

end Check

end Backoffice.Workflow

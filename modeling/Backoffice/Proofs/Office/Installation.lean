import Backoffice.Proofs.Command.Dispatch
import Backoffice.Proofs.Dashboard
import Backoffice.Office.Basic

namespace Backoffice

/-- Where what is registered stays: nothing takes it down again. -/
abbrev Fixtures := Dashboard × Command.Bus

/-- What is found there at most once. -/
inductive Fixture where
  | widget (code : String)
  | handler (isQuery : Bool) (label : String)
  | name (name : String)
  deriving DecidableEq

namespace Fixture

def refusal : Fixture → Fault
  | .widget code => .alreadyExists "dashboard widget" code
  | .handler isQuery label =>
    .alreadyExists (if isQuery then "query handler" else "command handler") label
  | .name n => .alreadyExists "command" n

def isIn (x : Fixtures) : Fixture → Bool
  | .widget code => x.1.codes.contains code
  | .handler isQuery label => (x.2.handlers isQuery).contains label
  | .name n => x.2.routes.contains n

end Fixture

inductive Entry where
  | widget (w : Dashboard.Widget)
  | handler (t : Command.Topic) (h : Command.Handler) (replace : Bool)
  | name (name : String) (t : Command.Topic) (replace : Bool)

namespace Entry

def fixture : Entry → Fixture
  | .widget w => .widget (Text.key w.code)
  | .handler t _ _ => .handler t.isQuery t.label
  | .name n _ _ => .name (Text.trim n)

def replaces : Entry → Bool
  | .widget _ => false
  | .handler _ _ replace => replace
  | .name _ _ replace => replace

def install (x : Fixtures) : Entry → Except Fault Fixtures
  | .widget w => do .ok (← x.1.register w, x.2)
  | .handler t h replace => do .ok (x.1, ← x.2.register t h replace)
  | .name n t replace => do .ok (x.1, ← x.2.bind n t replace)

def malformed? : Entry → Option Fault
  | .widget w =>
    if Text.key w.code == "" then some (.invalid "code" "widget code is required") else none
  | .handler _ _ _ => none
  | .name n _ _ =>
    if Text.trim n == "" then some (.invalid "name" "command name is required") else none

def put (x : Fixtures) : Entry → Fixtures
  | .widget w => ({ x.1 with widgets := x.1.widgets ++ [w] }, x.2)
  | .handler t h _ => (x.1, if t.isQuery then { x.2 with queries := x.2.queries.set t.label h }
      else { x.2 with commands := x.2.commands.set t.label h })
  | .name n t _ => (x.1, { x.2 with routes := x.2.routes.set (Text.trim n) t })

theorem install_eq (e : Entry) (x : Fixtures) : e.install x = match e.malformed? with
    | some f => .error f
    | none =>
      if !e.replaces && e.fixture.isIn x then .error e.fixture.refusal else .ok (e.put x) := by
  cases e with
  | widget w =>
    unfold install Dashboard.register malformed?
    by_cases hcode : Text.key w.code = ""
    · simp [hcode, bind, Except.bind]
    · by_cases htaken : Text.key w.code ∈ x.1.codes
      · simp [hcode, htaken, fixture, Fixture.isIn, replaces, Fixture.refusal, bind, Except.bind]
      · simp [hcode, htaken, fixture, Fixture.isIn, replaces, put, bind, Except.bind]
  | handler t h replace =>
    unfold install Command.Bus.register malformed?
    simp only [fixture, Fixture.isIn, replaces, Fixture.refusal, put]
    cases !replace && (x.2.handlers t.isQuery).contains t.label <;> cases t.isQuery <;> rfl
  | name n t replace =>
    unfold install Command.Bus.bind malformed?
    by_cases hname : Text.trim n = ""
    · simp [hname, bind, Except.bind]
    · cases replace <;> cases htaken : x.2.routes.contains (Text.trim n) <;>
        simp [hname, htaken, fixture, Fixture.isIn, replaces, Fixture.refusal, put, bind, Except.bind]

theorem isIn_put (e : Entry) (x : Fixtures) (k : Fixture) :
    k.isIn (e.put x) = true ↔ k.isIn x = true ∨ k = e.fixture := by
  cases e with
  | widget w => cases k <;> simp [put, Fixture.isIn, fixture, Dashboard.codes]
  | handler t h replace =>
    cases k with
    | handler isQuery label =>
      cases hquery : t.isQuery <;> cases isQuery <;>
        simp [put, Fixture.isIn, fixture, Command.Bus.handlers, Dict.contains, Dict.get?_set, hquery,
          apply_ite Option.isSome, or_comm]
    | _ => cases hquery : t.isQuery <;> simp [put, Fixture.isIn, fixture, hquery]
  | name n t replace =>
    cases k with
    | name n' =>
      simp [put, Fixture.isIn, fixture, Dict.contains, Dict.get?_set, apply_ite Option.isSome,
        or_comm]
    | _ => simp [put, Fixture.isIn, fixture, Command.Bus.handlers]

end Entry

structure Installation where
  entry : Entry
  /-- Whether a refusal is passed over. -/
  tolerant : Bool

namespace Installation

def fixture (r : Installation) : Fixture := r.entry.fixture

def install (r : Installation) (x : Fixtures) : Except Fault Fixtures :=
  if r.tolerant && r.fixture.isIn x then .ok x else r.entry.install x

def installAll : List Installation → Fixtures → Except Fault Unit × Fixtures
  | [], x => (.ok (), x)
  | r :: rs, x => match r.install x with
    | .ok y => installAll rs y
    | .error e => (.error e, x)

variable {r : Installation} {rs rs' : List Installation} {x y z : Fixtures} {e : Fault}

theorem install_strict (e : Entry) (x : Fixtures) : install ⟨e, false⟩ x = e.install x := rfl

theorem isIn_of_install (h : r.install x = .ok y) (k : Fixture) :
    k.isIn y = true ↔ k.isIn x = true ∨ k = r.fixture := by
  unfold install at h
  split at h
  · rename_i hthere
    rw [Bool.and_eq_true] at hthere
    cases h
    refine ⟨.inl, fun hk => hk.elim id ?_⟩
    rintro rfl
    exact hthere.2
  · rw [Entry.install_eq] at h
    split at h
    · cases h
    · split at h
      · cases h
      · cases h
        exact r.entry.isIn_put x k

def spares (r : Installation) : Bool := r.tolerant || r.entry.replaces

theorem install_taken (hspares : r.spares = false) (hformed : r.entry.malformed? = none)
    (htaken : r.fixture.isIn x = true) : r.install x = .error r.fixture.refusal := by
  rw [spares, Bool.or_eq_false_iff] at hspares
  have hthere : r.entry.fixture.isIn x = true := htaken
  rw [install, Entry.install_eq, hformed]
  simp [hspares, hthere, fixture]

theorem installs_iff : (∃ y, r.install x = .ok y) ↔ (r.tolerant = true ∧ r.fixture.isIn x = true) ∨
    (r.entry.malformed? = none ∧ (r.entry.replaces = true ∨ r.fixture.isIn x = false)) := by
  rw [install, Entry.install_eq, fixture]
  cases r.tolerant <;> cases r.entry.fixture.isIn x <;> cases r.entry.malformed? <;>
    cases r.entry.replaces <;> simp

theorem installAll_append (rs rs' : List Installation) (x : Fixtures) :
    installAll (rs ++ rs') x = match installAll rs x with
      | (.ok _, y) => installAll rs' y
      | (.error e, y) => (.error e, y) := by
  induction rs generalizing x with
  | nil => rfl
  | cons r rs ih =>
    rw [List.cons_append, installAll, installAll]
    cases r.install x with
    | ok y => exact ih y
    | error e => rfl

theorem installAll_append_ok (h : installAll rs x = (.ok (), y)) (rs' : List Installation) :
    installAll (rs ++ rs') x = installAll rs' y := by
  rw [installAll_append, h]

theorem prefix_of_refused (h : installAll rs x = (.error e, y)) :
    ∃ part, part <+: rs ∧ installAll part x = (.ok (), y) := by
  induction rs generalizing x with
  | nil => cases h
  | cons r rs ih =>
    rw [installAll] at h
    cases hr : r.install x with
    | error e' =>
      rw [hr] at h
      cases h
      exact ⟨[], List.nil_prefix, rfl⟩
    | ok x' =>
      rw [hr] at h
      obtain ⟨part, hpart, hinstalled⟩ := ih h
      refine ⟨r :: part, (List.prefix_cons_inj r).2 hpart, ?_⟩
      rw [installAll, hr]
      exact hinstalled

theorem isIn_of_installAll (h : installAll rs x = (.ok (), y)) (k : Fixture) :
    k.isIn y = true ↔ k.isIn x = true ∨ k ∈ rs.map fixture := by
  induction rs generalizing x with
  | nil =>
    cases h
    simp
  | cons r rs ih =>
    rw [installAll] at h
    cases hr : r.install x with
    | error e =>
      rw [hr] at h
      cases h
    | ok x' =>
      rw [hr] at h
      rw [ih h, isIn_of_install hr, List.map_cons, List.mem_cons, or_assoc]

/-- It may not be registered once more. -/
def isBarred (made : List Fixture) (r : Installation) : Bool :=
  !r.spares && made.contains r.fixture

theorem installAll_beside {made : List Fixture}
    (hmade : ∀ k : Fixture, k.isIn z = true ↔ k.isIn x = true ∨ k ∈ made)
    (h : installAll rs x = (.ok (), y)) :
    (installAll rs z).1 = match rs.find? (·.isBarred made) with
      | some r => .error r.fixture.refusal
      | none => .ok () := by
  induction rs generalizing x z with
  | nil => rfl
  | cons r rs ih =>
    rw [installAll] at h ⊢
    cases hr : r.install x with
    | error e =>
      rw [hr] at h
      cases h
    | ok x' =>
      rw [hr] at h
      by_cases hbarred : r.isBarred made = true
      · rw [List.find?_cons_of_pos hbarred]
        rw [isBarred, Bool.and_eq_true, Bool.not_eq_true', List.contains_iff_mem] at hbarred
        have htaken : r.fixture.isIn z = true := (hmade _).2 (.inr hbarred.2)
        have htolerant : r.tolerant = false := (Bool.or_eq_false_iff.1 hbarred.1).1
        have hformed : r.entry.malformed? = none := by
          simpa [htolerant] using (installs_iff.1 ⟨_, hr⟩).imp_right And.left
        rw [install_taken hbarred.1 hformed htaken]
      · rw [List.find?_cons_of_neg hbarred]
        obtain ⟨z', hz⟩ : ∃ z', r.install z = .ok z' := by
          rw [installs_iff]
          rcases installs_iff.1 ⟨_, hr⟩ with ⟨htolerant, hthere⟩ | ⟨hformed, hfree⟩
          · exact .inl ⟨htolerant, (hmade _).2 (.inl hthere)⟩
          · cases htaken : r.fixture.isIn z with
            | false => exact .inr ⟨hformed, .inr rfl⟩
            | true =>
              rcases (hmade _).1 htaken with hthere | hmem
              · exact .inr ⟨hformed, .inl (hfree.resolve_right (by simp [hthere]))⟩
              · have hspares : r.spares = true := by simpa [isBarred, hmem] using hbarred
                rcases (Bool.or_eq_true ..).mp hspares with htolerant | hreplaces
                · exact .inl ⟨htolerant, rfl⟩
                · exact .inr ⟨hformed, .inl hreplaces⟩
        rw [hz]
        refine ih (fun k => ?_) h
        rw [isIn_of_install hz, isIn_of_install hr, hmade]
        exact or_right_comm

end Installation

end Backoffice

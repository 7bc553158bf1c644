import Backoffice.Proofs.Call
import Backoffice.Proofs.Dict
import Backoffice.Proofs.Text.Ascii
import Backoffice.Workflow.Engine
import Mathlib.Data.List.Nodup

namespace Backoffice.Workflow

structure Transition.Complete (t : Transition) : Prop where
  name : Text.blank t.name = false
  source : Text.blank t.source = false
  target : Text.blank t.target = false

namespace Definition

structure WellFormed (d : Definition) : Prop where
  initial : Text.blank d.initialState = false
  nonempty : d.transitions ≠ []
  complete : ∀ t ∈ d.transitions, t.Complete
  distinct : (d.transitions.map (Text.key ·.name)).Nodup

variable {d d' : Definition} {state name : String} {t : Transition}

theorem checkTransitions_eq_ok_iff {seen : List String} {i : Nat} {ts : List Transition} :
    checkTransitions seen i ts = .ok () ↔ (∀ t ∈ ts, t.Complete) ∧
      (ts.map (Text.key ·.name)).Nodup ∧ ∀ t ∈ ts, Text.key t.name ∉ seen := by
  induction ts generalizing seen i with
  | nil => simp [checkTransitions]
  | cons t ts ih =>
    have hcomplete : t.Complete ↔ ¬Text.blank t.name = true ∧
        ¬(Text.blank t.source || Text.blank t.target) = true := by
      simp only [Bool.or_eq_true, not_or, Bool.not_eq_true]
      exact ⟨fun h => ⟨h.name, h.source, h.target⟩, fun h => ⟨h.1, h.2.1, h.2.2⟩⟩
    have hfresh : ¬seen.contains (Text.key t.name) = true ↔ Text.key t.name ∉ seen := by
      rw [List.contains_iff_mem]
    rw [checkTransitions, refuse_eq_ok, refuse_eq_ok, refuse_eq_ok, ih, hfresh, ← and_assoc,
      ← hcomplete, List.forall_mem_cons, List.forall_mem_cons, List.map_cons, List.nodup_cons]
    simp only [List.mem_cons, not_or, List.mem_map, not_exists, not_and]
    grind

theorem validate_eq_ok_iff : d.validate = .ok () ↔ d.WellFormed := by
  rw [validate, refuse_eq_ok, refuse_eq_ok, checkTransitions_eq_ok_iff]
  simp only [Bool.not_eq_true, List.isEmpty_eq_false_iff, List.not_mem_nil, not_false_eq_true,
    implies_true, and_true]
  exact ⟨fun ⟨hi, hn, hc, hd⟩ => ⟨hi, hn, hc, hd⟩, fun h => ⟨h.initial, h.nonempty, h.complete,
    h.distinct⟩⟩

theorem WellFormed.reordered (hd : d.WellFormed) (hi : d'.initialState = d.initialState)
    (hperm : d'.transitions.Perm d.transitions) : d'.WellFormed where
  initial := hi ▸ hd.initial
  nonempty h := hd.nonempty ((h ▸ hperm).nil_eq.symm)
  complete t ht := hd.complete t (hperm.mem_iff.1 ht)
  distinct := (hperm.map _).nodup_iff.2 hd.distinct

/-- Whether a transition is meant by a state and a name: it leaves the state, a blank one standing for
the initial state, and is named so up to the case of ASCII letters. White space at the ends of the
state and of the name is ignored. -/
def means (d : Definition) (state name : String) (t : Transition) : Bool :=
  t.source == d.stateOf state && Text.sameIgnoringCase t.name (Text.trim name)

theorem find?_eq (d : Definition) (state name : String) :
    d.find? (d.stateOf state) name = d.transitions.find? (d.means state name) := by
  rw [find?, leaving, List.find?_filter]
  congr 1
  funext t
  rw [means, Bool.decide_and, Bool.decide_eq_true, Bool.decide_eq_true]

theorem key_of_means {t' : Transition} (h : d.means state name t = true)
    (h' : d.means state name t' = true) : Text.key t.name = Text.key t'.name := by
  have hname := Text.key_eq_of_sameIgnoringCase (Bool.and_eq_true_iff.1 h).2
  have hname' := Text.key_eq_of_sameIgnoringCase (Bool.and_eq_true_iff.1 h').2
  rw [hname, hname']

theorem WellFormed.filter_means (hd : d.WellFormed) (state name : String) :
    d.transitions.filter (d.means state name) = (d.find? (d.stateOf state) name).toList := by
  rw [find?_eq]
  have hdistinct := hd.distinct
  generalize d.transitions = ts at hdistinct
  induction ts with
  | nil => rfl
  | cons t ts ih =>
    obtain ⟨hfresh, hrest⟩ := List.nodup_cons.1 hdistinct
    cases ht : d.means state name t with
    | false => rw [List.filter_cons_of_neg (by simp [ht]), List.find?_cons_of_neg (by simp [ht]),
        ih hrest]
    | true =>
      have hothers : ts.filter (d.means state name) = [] := by
        refine List.filter_eq_nil_iff.2 fun t' ht' hmeant => hfresh ?_
        exact List.mem_map.2 ⟨t', ht', key_of_means hmeant ht⟩
      rw [List.filter_cons_of_pos ht, List.find?_cons_of_pos ht, hothers]
      rfl

theorem WellFormed.find?_eq_some_iff (hd : d.WellFormed) :
    d.find? (d.stateOf state) name = some t ↔
      t ∈ d.leaving (d.stateOf state) ∧ d.means state name t = true := by
  have hleaving : t ∈ d.leaving (d.stateOf state) ∧ d.means state name t = true ↔
      t ∈ d.transitions.filter (d.means state name) := by
    simp only [leaving, means, List.mem_filter, Bool.and_eq_true]
    tauto
  rw [hleaving, hd.filter_means, Option.mem_toList]

theorem WellFormed.find?_reordered (hd : d.WellFormed) (hi : d'.initialState = d.initialState)
    (hperm : d'.transitions.Perm d.transitions) (state name : String) :
    d'.find? (d'.stateOf state) name = d.find? (d.stateOf state) name := by
  have hmeans : d'.means state name = d.means state name := by
    funext t
    rw [means, means, stateOf, stateOf, hi]
  have hfound := hperm.filter (d.means state name)
  rw [hd.filter_means, ← hmeans, (hd.reordered hi hperm).filter_means] at hfound
  refine Option.ext fun t => ?_
  rw [← Option.mem_toList, ← Option.mem_toList]
  exact hfound.mem_iff

end Definition

namespace Engine

variable {e e' : Engine} {entityType : String} {d : Definition} {ctx : Context}
  {req : TransitionRequest} {supply : Supply}

theorem register_eq_ok_iff : e.register entityType d = .ok e' ↔ Text.key entityType ≠ "" ∧
    d.trimmed.WellFormed ∧ e' = ⟨e.definitions.set (Text.key entityType) d.trimmed⟩ := by
  unfold register
  generalize Text.key entityType = key
  rw [refuse_eq_ok, bind_eq_ok, ← Definition.validate_eq_ok_iff, beq_iff_eq]
  refine and_congr Iff.rfl ⟨?_, fun ⟨hd, he⟩ => ⟨(), hd, congrArg _ he.symm⟩⟩
  rintro ⟨_, hd, ⟨⟩⟩
  exact ⟨hd, rfl⟩

theorem definition?_set (e : Engine) (key : String) (d : Definition) (entityType : String) :
    definition? ⟨e.definitions.set key d⟩ entityType =
      if Text.key entityType = key then some d else e.definition? entityType :=
  Dict.get?_set _ _ _ _

theorem definition?_of_register (h : e.register entityType d = .ok e') {other : String}
    (hkey : Text.key other = Text.key entityType) : e'.definition? other = some d.trimmed := by
  obtain ⟨-, -, rfl⟩ := register_eq_ok_iff.1 h
  rw [definition?_set, if_pos hkey]

theorem fire_eq (hactive : ctx.ensureActive = .ok ())
    (h : e.definition? req.entityType = some d) :
    e.fire ctx req = match d.find? (d.stateOf req.currentState) req.transition with
      | some t => .ok (d.stateOf req.currentState, t.target)
      | none => .error (.invalidTransition req.entityType (d.stateOf req.currentState)
          req.transition) := by
  unfold fire require
  rw [hactive, h]
  rfl

theorem fire_eq_ok_iff (h : e.definition? req.entityType = some d) {states : String × String} :
    e.fire ctx req = .ok states ↔ ctx.ensureActive = .ok () ∧
      ∃ t, d.find? (d.stateOf req.currentState) req.transition = some t ∧
        states = (d.stateOf req.currentState, t.target) := by
  cases hactive : ctx.ensureActive with
  | error f =>
    rw [fire, hactive]
    simp [bind, Except.bind]
  | ok _ =>
    rw [fire_eq hactive h]
    cases d.find? (d.stateOf req.currentState) req.transition with
    | none => simp
    | some t => simp [eq_comm]

theorem available_eq_ok_iff (h : e.definition? entityType = some d) {state : String}
    {ts : List Transition} : e.available ctx entityType state = .ok ts ↔
      ctx.ensureActive = .ok () ∧ ts = d.leaving (d.stateOf state) := by
  unfold available require
  rw [h]
  cases ctx.ensureActive with
  | error f => simp [bind, Except.bind]
  | ok _ => simp [bind, Except.bind, eq_comm]

theorem transition_eq_ok_iff (hd : d.WellFormed) (h : e.definition? req.entityType = some d)
    {result : TransitionResult} {later : Supply} :
    e.transition ctx req supply = .ok (result, later) ↔
      ∃ ts, e.available ctx req.entityType req.currentState = .ok ts ∧
        ∃ t ∈ ts, d.means req.currentState req.transition t = true ∧
          result = ⟨d.stateOf req.currentState, t.target, supply.now.1, req.actorId, req.metadata⟩ ∧
          later = supply.now.2 := by
  simp only [transition, bind_eq_ok, fire_eq_ok_iff h, available_eq_ok_iff h, Except.ok.injEq,
    Prod.mk.injEq]
  constructor
  · rintro ⟨_, ⟨hactive, t, hfound, rfl⟩, hresult, hlater⟩
    obtain ⟨hmem, hmeant⟩ := hd.find?_eq_some_iff.1 hfound
    exact ⟨_, ⟨hactive, rfl⟩, t, hmem, hmeant, hresult.symm, hlater.symm⟩
  · rintro ⟨_, ⟨hactive, rfl⟩, t, hmem, hmeant, hresult, hlater⟩
    have hfound := hd.find?_eq_some_iff.2 ⟨hmem, hmeant⟩
    exact ⟨_, ⟨hactive, t, hfound, rfl⟩, hresult.symm, hlater.symm⟩

theorem fire_reordered {d' : Definition} (hd : d.WellFormed)
    (hi : d'.initialState = d.initialState) (hperm : d'.transitions.Perm d.transitions)
    (e : Engine) (key : String) (ctx : Context) (req : TransitionRequest) :
    fire ⟨e.definitions.set key d'⟩ ctx req = fire ⟨e.definitions.set key d⟩ ctx req := by
  unfold fire require
  rw [definition?_set, definition?_set]
  by_cases hkey : Text.key req.entityType = key
  · rw [if_pos hkey, if_pos hkey]
    have hstate : d'.stateOf req.currentState = d.stateOf req.currentState := by
      rw [Definition.stateOf, Definition.stateOf, hi]
    have hfind := hd.find?_reordered hi hperm req.currentState req.transition
    rw [hstate] at hfind
    dsimp only [bind, Except.bind]
    rw [hstate, hfind]
  · rw [if_neg hkey, if_neg hkey]

/-- Under a definition that was accepted no more than one transition is meant by a state and a name, it
is the one that is made, whenever it is available, and the transitions can be declared in any order. -/
theorem machine_deterministic (h : e.register entityType d = .ok e') :
    (∀ state name, (d.trimmed.transitions.filter (d.trimmed.means state name)).length ≤ 1) ∧
    (∀ ctx req supply result later, Text.key req.entityType = Text.key entityType →
      (e'.transition ctx req supply = .ok (result, later) ↔
        ∃ ts, e'.available ctx req.entityType req.currentState = .ok ts ∧
          ∃ t ∈ ts, d.trimmed.means req.currentState req.transition t = true ∧
            result = ⟨d.trimmed.stateOf req.currentState, t.target, supply.now.1, req.actorId,
              req.metadata⟩ ∧ later = supply.now.2)) ∧
    ∀ d' : Definition, d'.initialState = d.initialState → d'.transitions.Perm d.transitions →
      ∃ e'', e.register entityType d' = .ok e'' ∧
        ∀ ctx req supply, e''.transition ctx req supply = e'.transition ctx req supply := by
  have hheld {other : String} (hkey : Text.key other = Text.key entityType) :=
    definition?_of_register h hkey
  obtain ⟨htype, hd, rfl⟩ := register_eq_ok_iff.1 h
  refine ⟨fun state name => ?_, fun ctx req supply result later hkey => ?_, fun d' hi hperm => ?_⟩
  · rw [hd.filter_means, Option.length_toList]
    split <;> decide
  · exact transition_eq_ok_iff hd (hheld hkey)
  · have hinitial : d'.trimmed.initialState = d.trimmed.initialState := congrArg Text.trim hi
    have hreordered : d'.trimmed.transitions.Perm d.trimmed.transitions := hperm.map _
    have hd' := hd.reordered hinitial hreordered
    refine ⟨_, register_eq_ok_iff.2 ⟨htype, hd', rfl⟩, fun ctx req supply => ?_⟩
    rw [transition, transition, fire_reordered hd hinitial hreordered]

def notes : Definition :=
  ⟨" draft ", [⟨"Publish", "draft", "published", ""⟩, ⟨" edit ", "published", "draft", ""⟩]⟩

/-- A blank state is the draft, and the name may be written in capitals. -/
theorem notes_deterministic :
    ∃ e, empty.register " Notes " notes = .ok e ∧
      (∀ supply, e.transition .empty ⟨"1", "notes", " ", " PUBLISH", "", []⟩ supply =
        .ok (⟨"draft", "published", supply.now.1, "", []⟩, supply.now.2)) ∧
      ∃ e', empty.register " Notes " ⟨" draft ", notes.transitions.reverse⟩ = .ok e' ∧
        ∀ ctx req supply, e'.transition ctx req supply = e.transition ctx req supply := by
  have h : empty.register " Notes " notes = .ok ⟨Dict.empty.set "notes" notes.trimmed⟩ := rfl
  obtain ⟨-, hmade, hreordered⟩ := machine_deterministic h
  refine ⟨_, h, fun supply => ?_, hreordered _ rfl (List.reverse_perm _)⟩
  refine (hmade _ _ _ _ _ (by decide)).2 ⟨_, rfl, ?_⟩
  exact ⟨⟨"Publish", "draft", "published", ""⟩, by decide, by decide, rfl, rfl⟩

end Engine

end Backoffice.Workflow

import Backoffice.Feature.Gate
import Backoffice.Proofs.Call
import Backoffice.Proofs.Dict
import Backoffice.Proofs.Feature.Chain

namespace Backoffice.Feature

def isCurrent (key : String) : Bool := renamed.all (·.removed != Text.key key)

def Override.isAt (o : Override) (key : String) (scope : Scope) : Bool :=
  o.scope == scope && o.key == Text.key key

theorem Override.isAt_iff {o : Override} {key : String} {scope : Scope} :
    o.isAt key scope = true ↔ o.scope = scope ∧ o.key = Text.key key := by
  simp [isAt]

/-- A change asked of a gate: of the override of a key at a scope, to a value or to none. -/
structure Edit where
  ctx : Context
  key : String
  scope : Scope
  value : Option Bool

namespace Edit

def apply (e : Edit) (g : Gate) : Except Fault Gate :=
  match e.value with
  | some on => g.set e.ctx e.key e.scope on
  | none => g.unset e.ctx e.key e.scope

def accepted (e : Edit) : Bool := isCurrent e.key && !e.ctx.cancelled

def isAt (e : Edit) (key : String) (scope : Scope) : Bool :=
  e.scope == scope && Text.key e.key == Text.key key

def write (e : Edit) (overrides : List Override) : List Override :=
  e.value.toList.map (⟨e.scope, Text.key e.key, ·⟩) ++ Gate.without overrides e.key e.scope

theorem isAt_iff {e : Edit} {key : String} {scope : Scope} :
    e.isAt key scope = true ↔ e.scope = scope ∧ Text.key e.key = Text.key key := by
  simp [isAt]

end Edit

def standing (log : List Edit) (key : String) (scope : Scope) : Option Bool :=
  ((log.filter fun e => e.accepted && e.isAt key scope).getLast?).bind (·.value)

/-- What a log leaves for a key at the first of the scopes for which it leaves anything. -/
def recorded (log : List Edit) (key : String) (scopes : List Scope) : Option Bool :=
  (Chain.arranged scopes).findSome? (standing log key)

theorem standing_of_not_isAt {earlier later : List Edit} {e : Edit} {key : String} {scope : Scope}
    (h : e.isAt key scope = false) :
    standing (earlier ++ e :: later) key scope = standing (earlier ++ later) key scope := by
  simp [standing, h]

theorem recorded_elsewhere {earlier later : List Edit} {e : Edit} {key : String}
    {scopes : List Scope} (h : e.scope ∉ scopes ∨ Text.key e.key ≠ Text.key key) :
    recorded (earlier ++ e :: later) key scopes = recorded (earlier ++ later) key scopes := by
  have hstanding : ∀ scope ∈ Chain.arranged scopes,
      standing (earlier ++ e :: later) key scope = standing (earlier ++ later) key scope := by
    intro scope hscope
    rw [← Chain.ofScopes_eq, Chain.mem_ofScopes] at hscope
    apply standing_of_not_isAt
    rw [← Bool.not_eq_true, Edit.isAt_iff]
    rintro ⟨rfl, hkey⟩
    exact h.elim (fun h => h hscope) fun h => h hkey
  unfold recorded
  rw [← Function.id_comp (standing _ key), ← List.findSome?_map, List.map_congr_left hstanding,
    List.findSome?_map, Function.id_comp]

/-- What is configured for a key in one of its spellings; off if it is not there. -/
def Configured (flags : List (String × Bool)) (key : String) (on : Bool) : Prop :=
  (∃ flag ∈ flags, Text.key flag.1 = Text.key key ∧ flag.2 = on) ∨
    on = false ∧ ∀ flag ∈ flags, Text.key flag.1 ≠ Text.key key

theorem checkKey_eq_ok_iff {key : String} {u : Unit} :
    checkKey key = .ok u ↔ isCurrent key = true := by
  unfold checkKey isCurrent
  generalize renamed = entries
  split
  · rename_i r h
    refine iff_of_false (by simp) fun hall => ?_
    have hne := List.all_eq_true.1 hall r (List.mem_of_find?_eq_some h)
    have heq := List.find?_some h
    exact bne_iff_ne.1 hne (beq_iff_eq.1 heq)
  · rename_i h
    simpa [List.find?_eq_none] using h

theorem standing_concat (log : List Edit) (e : Edit) (key : String) (scope : Scope) :
    standing (log ++ [e]) key scope =
      if e.accepted && e.isAt key scope then e.value else standing log key scope := by
  unfold standing
  rw [List.filter_append, List.filter_cons, List.filter_nil]
  split <;> simp

namespace Gate

variable {g : Gate} {flags : List (String × Bool)} {overrides : List Override}

def edited (g : Gate) (e : Edit) : Gate :=
  match e.apply g with
  | .ok g' => g'
  | .error _ => g

def after (g : Gate) (log : List Edit) : Gate := log.foldl edited g

theorem apply_eq_ok_iff {e : Edit} {g' : Gate} (h : g.overrides = some overrides) :
    e.apply g = .ok g' ↔
      e.accepted = true ∧ g' = { g with overrides := some (e.write overrides) } := by
  have hchange : ∀ operation f, g.change e.ctx operation e.key f = .ok g' ↔
      e.accepted = true ∧ g' = { g with overrides := some (f overrides) } := by
    intro operation f
    unfold change
    simp only [bind_eq_ok, checkKey_eq_ok_iff, h, Edit.accepted, Bool.and_eq_true,
      Context.ensureActive]
    cases e.ctx.cancelled with
    | true => simp
    | false => simp [eq_comm (a := g')]
  unfold Edit.apply Edit.write
  cases e.value with
  | none => exact hchange _ _
  | some on => exact hchange _ _

theorem edited_eq (h : g.overrides = some overrides) (e : Edit) :
    g.edited e =
      if e.accepted then { g with overrides := some (e.write overrides) } else g := by
  unfold edited
  split
  · rename_i g' hg
    obtain ⟨hacc, rfl⟩ := (apply_eq_ok_iff h).1 hg
    rw [if_pos hacc]
  · rename_i f hf
    rw [if_neg]
    intro hacc
    cases hf.symm.trans ((apply_eq_ok_iff h).2 ⟨hacc, rfl⟩)

theorem find?_without (overrides : List Override) (e : Edit) (key : String) (scope : Scope) :
    (without overrides e.key e.scope).find? (·.isAt key scope) =
      if e.isAt key scope then none else overrides.find? (·.isAt key scope) := by
  have hwithout : without overrides e.key e.scope =
      overrides.filter fun o => !o.isAt e.key e.scope := rfl
  rw [hwithout, List.find?_filter]
  split
  · rename_i hat
    obtain ⟨rfl, hkey⟩ := Edit.isAt_iff.1 hat
    have hsame : ∀ o : Override, o.isAt e.key e.scope = o.isAt key e.scope := by
      simp [Override.isAt, hkey]
    simp [List.find?_eq_none, hsame]
  · rename_i hat
    congr 1
    funext o
    by_cases ho : o.isAt key scope = true
    · have hother : o.isAt e.key e.scope = false := by
        rw [← Bool.not_eq_true, Override.isAt_iff]
        obtain ⟨rfl, hkey⟩ := Override.isAt_iff.1 ho
        exact fun h => hat (Edit.isAt_iff.2 ⟨h.1.symm, h.2.symm.trans hkey⟩)
      simp [ho, hother]
    · simp [ho]

theorem overrideAt_write (h : g.overrides = some overrides) (e : Edit) (key : String)
    (scope : Scope) :
    ({ g with overrides := some (e.write overrides) } : Gate).overrideAt key scope =
      if e.isAt key scope then e.value else g.overrideAt key scope := by
  have hat : ∀ o : Override, (o.scope == scope && o.key == Text.key key) = o.isAt key scope :=
    fun _ => rfl
  simp only [overrideAt, h, Option.getD_some, Edit.write, List.find?_append, hat, find?_without]
  cases hvalue : e.value with
  | none =>
    split <;> simp
  | some on =>
    have hnew : (⟨e.scope, Text.key e.key, on⟩ : Override).isAt key scope = e.isAt key scope := rfl
    simp only [Option.toList_some, List.map_cons, List.map_nil, List.find?_cons, hnew]
    split <;> simp_all

structure Holds (g : Gate) (defaults : Dict Bool) (log : List Edit) : Prop where
  defaults : g.defaults = defaults
  layered : g.overrides.isSome
  overrideAt : ∀ key, g.overrideAt key = standing log key

theorem Holds.edited {defaults : Dict Bool} {log : List Edit} (h : g.Holds defaults log)
    (e : Edit) : (g.edited e).Holds defaults (log ++ [e]) := by
  obtain ⟨overrides, ho⟩ := Option.isSome_iff_exists.1 h.layered
  rw [edited_eq ho]
  split
  · rename_i hacc
    refine ⟨h.defaults, rfl, fun key => funext fun scope => ?_⟩
    rw [overrideAt_write ho, standing_concat, hacc, h.overrideAt, Bool.true_and]
  · rename_i hacc
    refine ⟨h.defaults, h.layered, fun key => funext fun scope => ?_⟩
    rw [standing_concat, Bool.eq_false_iff.2 hacc, h.overrideAt]
    rfl

theorem Holds.after {defaults : Dict Bool} {log later : List Edit} (h : g.Holds defaults log) :
    (g.after later).Holds defaults (log ++ later) := by
  induction later generalizing g log with
  | nil =>
    rw [List.append_nil]
    exact h
  | cons e later ih =>
    rw [List.append_cons]
    exact ih (h.edited e)

theorem layered_eq_ok (h : layered flags = .ok g) :
    g = ⟨Dict.ofList (flags.map fun (key, on) => (Text.key key, on)), some []⟩ := by
  obtain ⟨defaults, hdefaults, h⟩ := bind_eq_ok.1 h
  obtain ⟨_, -, hdefaults⟩ := bind_eq_ok.1 hdefaults
  cases hdefaults
  cases h
  rfl

theorem configured_defaultFor (h : layered flags = .ok g) (key : String) :
    Configured flags key (g.defaultFor key) := by
  rw [layered_eq_ok h, defaultFor, Dict.get?_ofList]
  cases hlast : ((flags.map fun (key, on) => (Text.key key, on)).filter
      (·.1 == Text.key key)).getLast? with
  | none =>
    rw [List.getLast?_eq_none_iff, List.filter_eq_nil_iff] at hlast
    refine .inr ⟨rfl, fun flag hflag hkey => ?_⟩
    exact hlast _ (List.mem_map_of_mem hflag) (beq_iff_eq.2 hkey)
  | some entry =>
    obtain ⟨hmem, hkey⟩ := List.mem_filter.1 (List.mem_of_getLast? hlast)
    obtain ⟨flag, hflag, rfl⟩ := List.mem_map.1 hmem
    exact .inl ⟨flag, hflag, beq_iff_eq.1 hkey, rfl⟩

theorem enabled_after (h : layered flags = .ok g) (log : List Edit) (ctx : Context) (key : String)
    (chain : Option (List Scope)) :
    (∀ e : Edit, (∃ g', e.apply (g.after log) = .ok g') ↔ e.accepted = true) ∧
      Configured flags key (g.defaultFor key) ∧
      (g.after log).enabled ctx key (chain.map .ofScopes) =
        (fun _ => (recorded log key (chain.getD (Chain.scopesOf ctx))).getD (g.defaultFor key)) <$>
          ctx.ensureActive ∧
      ∀ earlier e later, log = earlier ++ e :: later →
        e.scope ∉ chain.getD (Chain.scopesOf ctx) ∨ Text.key e.key ≠ Text.key key →
        (g.after log).enabled ctx key (chain.map .ofScopes) =
          (g.after (earlier ++ later)).enabled ctx key (chain.map .ofScopes) := by
  have hstart : g.Holds g.defaults [] := by
    rw [layered_eq_ok h]
    exact ⟨rfl, rfl, fun _ => rfl⟩
  have hafter : ∀ log, (g.after log).Holds g.defaults log := fun _ => hstart.after
  have hanswer : ∀ log, (g.after log).enabled ctx key (chain.map .ofScopes) =
      (fun _ => (recorded log key (chain.getD (Chain.scopesOf ctx))).getD (g.defaultFor key)) <$>
        ctx.ensureActive := by
    intro log
    have hchain : (chain.map Chain.ofScopes).getD (Chain.ofContext ctx) =
        Chain.arranged (chain.getD (Chain.scopesOf ctx)) := by
      rw [Chain.ofContext_eq, ← Chain.ofScopes_eq]
      cases chain <;> rfl
    have hdefault : (g.after log).defaultFor key = g.defaultFor key := by
      rw [defaultFor, defaultFor, (hafter log).defaults]
    rw [enabled, hchain, resolve, (hafter log).overrideAt, hdefault, map_eq_pure_bind]
    rfl
  refine ⟨fun e => ?_, configured_defaultFor h key, hanswer log, ?_⟩
  · obtain ⟨overrides, ho⟩ := Option.isSome_iff_exists.1 (hafter log).layered
    simp [apply_eq_ok_iff ho]
  · rintro earlier e later rfl helsewhere
    rw [hanswer, hanswer, recorded_elsewhere helsewhere]

def commandsOff : Gate := ⟨.ofList [("commands", false)], some []⟩

def staff : Context := { Context.empty with actor := some ⟨"u1", some "t1", some "o1", []⟩ }

def switched : List Edit :=
  [⟨.system, " COMMANDS", .system, some true⟩, ⟨staff, "commands", ⟨.tenant, "t1"⟩, some false⟩,
    ⟨staff, "commands", ⟨.org, "o9"⟩, some true⟩, ⟨staff, "Commands.REPL", .system, some true⟩]

theorem enabled_after_switched :
    layered [(" Commands ", false)] = .ok commandsOff ∧
      (commandsOff.after switched).isEnabled staff "Commands" = .ok false ∧
      (commandsOff.after switched).isEnabled staff "Commands" =
        (commandsOff.after (switched.eraseIdx 2)).isEnabled staff "Commands" := by
  have h : layered [(" Commands ", false)] = .ok commandsOff := rfl
  obtain ⟨-, -, hanswer, helsewhere⟩ := enabled_after h switched staff "Commands" none
  have htenant : recorded switched "Commands" (Chain.scopesOf staff) = some false := by
    decide +kernel
  refine ⟨h, hanswer.trans ?_, helsewhere (switched.take 2) _ _ rfl (.inl (by decide))⟩
  rw [Option.getD_none, htenant]
  rfl

end Gate

end Backoffice.Feature

import Backoffice.Call
import Backoffice.Context
import Backoffice.Json.Decode
import Backoffice.Text.Key

namespace Backoffice.Workflow

structure Attempt where
  entityType : String
  entityId : String
  transition : String
  environment : String
  requestedLocale : String
  metadata : Record

namespace Attempt

def decode : Decoder Attempt := Reader.decoder do
  let entityType ← Reader.required "entity_type" Decode.string
  let entityId ← Reader.required "entity_id" Decode.string
  let transition ← Reader.required "transition" Decode.string
  let environment ← Reader.defaulted "environment" "" Decode.string
  let requestedLocale ← Reader.defaulted "requested_locale" "" Decode.string
  let metadata ← Reader.defaulted "metadata" [] Decode.record
  pure ⟨entityType, entityId, transition, environment, requestedLocale, metadata⟩

end Attempt

/-- Locales required for selected transitions, by environment; those under the empty name apply
where an environment has none of its own. -/
structure LocalePolicy where
  transitions : List String
  required : Dict (List String)
  available : String → String → Except Fault (List String)

namespace LocalePolicy

def new (available : String → String → Except Fault (List String)) : LocalePolicy :=
  ⟨[], .empty, available⟩

def forTransition (p : LocalePolicy) (transition : String) : LocalePolicy :=
  { p with transitions := Text.key transition :: p.transitions }

def require (p : LocalePolicy) (environment : String) (locales : List String) : LocalePolicy :=
  { p with required := p.required.set (Text.key environment) (locales.map Text.key) }

def requiredFor (p : LocalePolicy) (environment : String) : List String :=
  ((p.required.get? environment).or (p.required.get? "")).getD []

def apply (p : LocalePolicy) (a : Attempt) : Except Fault Unit := do
  let required := p.requiredFor (Text.key a.environment)
  if !p.transitions.contains (Text.key a.transition) || required.isEmpty then .ok ()
  else
    let available := (← p.available a.entityType a.entityId).map Text.key
    match required.filter fun l => !available.contains l with
    | [] => .ok ()
    | missing => .error (.missingLocales ⟨a.entityType, a.entityId, a.transition, a.environment,
        a.requestedLocale, missing⟩)

end LocalePolicy

structure VetoLabels where
  entity : String
  environment : String
  locale : String
  transition : String
  deriving DecidableEq, Repr

namespace VetoLabels

def values (l : VetoLabels) : List String := [l.entity, l.environment, l.locale, l.transition]

def le (a b : VetoLabels) : Bool := (compare a.values b.values).isLE

/-- The counter that a library of metrics keeps for labels, by some name of it. -/
abbrev Series := VetoLabels → String

end VetoLabels

/-- How often transitions were vetoed. Each counter bears the labels that it was first asked for by. -/
abbrev VetoCounts := List (VetoLabels × Nat)

namespace VetoCounts

variable (series : VetoLabels.Series)

def touch (cs : VetoCounts) (l : VetoLabels) : Nat × VetoCounts :=
  match cs.find? fun c => series c.1 == series l with
  | some (_, n) => (n, cs)
  | none => (0, (l, 0) :: cs)

def increment (cs : VetoCounts) (l : VetoLabels) : VetoCounts :=
  (touch series cs l).2.map fun (k, n) => if series k == series l then (k, n + 1) else (k, n)

def metricName : String := "larch_workflow_blocked_transitions_total"

def escape (s : String) : String :=
  String.ofList (s.toList.flatMap fun c =>
    match c.toNat with
    | 0x5C => ['\\', '\\']
    | 0xA => ['\\', 'n']
    | 0x22 => ['\\', c]
    | _ => [c])

def seriesText (l : VetoLabels) (n : Nat) : String :=
  let pair (name value : String) : String := name ++ "=\"" ++ escape value ++ "\""
  metricName ++ "\x7b" ++ ",".intercalate [pair "entity" l.entity, pair "environment" l.environment,
    pair "locale" l.locale, pair "transition" l.transition] ++ "\x7d " ++ toString n ++ "\n"

def text (cs : VetoCounts) : String :=
  if cs.isEmpty then ""
  else
    "# HELP " ++ metricName ++ " Workflow transitions blocked by missing translations\n" ++
      "# TYPE " ++ metricName ++ " counter\n" ++
      "".intercalate ((cs.mergeSort fun a b => a.1.le b.1).map fun (l, n) => seriesText l n)

end VetoCounts

structure Enforcer where
  policy : Option LocalePolicy
  series : VetoLabels.Series
  counts : VetoCounts

namespace Enforcer

def check (a : Attempt) : Call Enforcer Unit := do
  let e ← Call.state
  match e.policy with
  | none => pure ()
  | some p =>
    match p.apply a with
    | .ok () => pure ()
    | .error f =>
      match f.root with
      | .missingLocales _ =>
        let labels : VetoLabels := ⟨a.entityType, a.environment, a.requestedLocale, a.transition⟩
        Call.put { e with counts := e.counts.increment e.series labels }
      | _ => pure ()
      throw f

end Enforcer

end Backoffice.Workflow

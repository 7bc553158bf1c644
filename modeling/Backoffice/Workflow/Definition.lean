import Backoffice.Fault
import Backoffice.Json.Decode
import Backoffice.Text.Key

namespace Backoffice.Workflow

structure Transition where
  name : String
  source : String
  target : String
  description : String
  deriving DecidableEq, Repr

namespace Transition

def trimmed (t : Transition) : Transition :=
  ⟨Text.trim t.name, Text.trim t.source, Text.trim t.target, Text.trim t.description⟩

def decode : Decoder Transition := Reader.decoder do
  let name ← Reader.required "name" Decode.string
  let source ← Reader.required "from" Decode.string
  let target ← Reader.required "to" Decode.string
  let description ← Reader.defaulted "description" "" Decode.string
  pure ⟨name, source, target, description⟩

def toJson (t : Transition) : Json :=
  .ofFields ([("name", .str t.name), ("from", .str t.source), ("to", .str t.target)] ++
    (if t.description == "" then [] else [("description", .str t.description)]))

end Transition

structure Definition where
  initialState : String
  transitions : List Transition
  deriving DecidableEq, Repr

namespace Definition

def trimmed (d : Definition) : Definition :=
  ⟨Text.trim d.initialState, d.transitions.map Transition.trimmed⟩

def decode : Decoder Definition := Reader.decoder do
  let initialState ← Reader.required "initial_state" Decode.string
  let transitions ← Reader.required "transitions" (Decode.list Transition.decode)
  pure ⟨initialState, transitions⟩

def toJson (d : Definition) : Json :=
  .ofFields [("initial_state", .str d.initialState), ("transitions", .arr (d.transitions.map (·.toJson)))]

def place (i : Nat) : String := "definition.transitions[" ++ toString i ++ "]"

def checkTransitions (seen : List String) (i : Nat) : List Transition → Except Fault Unit
  | [] => .ok ()
  | t :: rest => do
    if Text.blank t.name then
      .error (.invalid (place i ++ ".name") "transition name is required")
    if Text.blank t.source || Text.blank t.target then
      .error (.invalid (place i) "transition requires from and to states")
    if seen.contains (Text.key t.name) then
      .error (.invalid (place i ++ ".name") ("duplicate transition name " ++ Text.trim t.name))
    checkTransitions (Text.key t.name :: seen) (i + 1) rest

def validate (d : Definition) : Except Fault Unit := do
  if Text.blank d.initialState then
    .error (.invalid "definition.initial_state" "initial state is required")
  if d.transitions.isEmpty then
    .error (.invalid "definition.transitions" "at least one transition is required")
  checkTransitions [] 0 d.transitions

def leaving (d : Definition) (state : String) : List Transition :=
  d.transitions.filter (·.source == state)

/-- The transition `name` that leaves `state`; ASCII case does not matter. -/
def find? (d : Definition) (state name : String) : Option Transition :=
  (d.leaving state).find? fun t => Text.sameIgnoringCase t.name (Text.trim name)

def stateOf (d : Definition) (state : String) : String :=
  if Text.blank state then d.initialState else Text.trim state

end Definition

inductive Status where
  | draft
  | active
  | deprecated
  deriving DecidableEq, Repr, Inhabited

namespace Status

def names : List (String × Status) :=
  [("draft", draft), ("active", active), ("deprecated", deprecated)]

def text : Status → String
  | draft => "draft"
  | active => "active"
  | deprecated => "deprecated"

def decode : Decoder Status := Decode.choice names

def parse (s : String) : Except Fault Status :=
  match names.find? (·.1 == Text.key s) with
  | some (_, status) => .ok status
  | none => .error (.invalid "status" ("unknown workflow status " ++ Text.key s))

end Status

end Backoffice.Workflow

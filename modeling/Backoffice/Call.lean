import Backoffice.Fault
import Backoffice.Supply

/-!
Calls of a service over a state.

A call may read the clock, draw identifiers, change the state and fail. What it changed before it
failed stays changed; `Call.atomic` lifts a function that either fails or changes the state.
-/

namespace Backoffice

/-- A call on the state `σ`, with the supply beside it. -/
abbrev Call (σ : Type) := ExceptT Fault (StateM (Supply × σ))

namespace Call

variable {σ τ α : Type}

def runOn (c : Call σ α) (supply : Supply) (s : σ) : Except Fault α × Supply × σ :=
  c (supply, s)

def ofExcept (r : Except Fault α) : Call σ α :=
  match r with
  | .ok a => pure a
  | .error f => throw f

def now : Call σ Instant := do
  let (supply, s) ← get
  set (supply.now.2, s)
  pure supply.now.1

def fresh : Call σ String := do
  let (supply, s) ← get
  set (supply.fresh.2, s)
  pure supply.fresh.1

def state : Call σ σ := do
  pure (← get).2

def reads (f : σ → α) : Call σ α := do
  pure (f (← state))

def put (s : σ) : Call σ Unit := do
  let (supply, _) ← get
  set (supply, s)

def change (f : σ → σ) : Call σ Unit := do
  put (f (← state))

def asks (f : σ → Except Fault α) : Call σ α := do
  ofExcept (f (← state))

/-- A step that fails and changes nothing, or succeeds with the new state. -/
def atomic (f : σ → Except Fault (α × σ)) : Call σ α := do
  let (a, s) ← asks f
  put s
  pure a

def update (f : σ → Except Fault σ) : Call σ Unit := do
  put (← asks f)

/-- The outcome of a call as a value. -/
def attempt (c : Call σ α) : Call σ (Except Fault α) := fun s =>
  let (r, s') := c s
  (.ok r, s')

def within (part : τ → σ) (replace : σ → τ → τ) (c : Call σ α) : Call τ α := fun (supply, t) =>
  let (r, supply', s') := c (supply, part t)
  (r, supply', replace s' t)

end Call

end Backoffice

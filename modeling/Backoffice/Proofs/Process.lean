import Backoffice.Call

/-!
Calls cut into steps.

A process acts on supply and state in steps, and shows an event at each; between two steps of one
process others may act. `run` is the process without interruption, and the laws of `run` say that
it is then the call it was cut from.
-/

namespace Backoffice

/-- A call that ends with an answer or takes a step and goes on by what it found. -/
inductive Process (ε σ α : Type) where
  | done (r : Except Fault α)
  | step (act : Supply × σ → ε × Supply × σ) (next : Supply × σ → Process ε σ α)

namespace Process

variable {ε σ α β : Type}

def run : Process ε σ α → Call σ α
  | done r => fun s => (r, s)
  | step act next => fun s => (next s).run (act s).2

def atomically (c : Call σ α) (shown : Except Fault α → ε) : Process ε σ α :=
  step (fun s => (shown (c s).1, (c s).2)) fun s => done (c s).1

def bind : Process ε σ α → (α → Process ε σ β) → Process ε σ β
  | done (.ok a), f => f a
  | done (.error e), _ => done (.error e)
  | step act next, f => step act fun s => (next s).bind f

instance : Monad (Process ε σ) where
  pure a := done (.ok a)
  bind := bind

def attempt : Process ε σ α → Process ε σ (Except Fault α)
  | done r => done (.ok r)
  | step act next => step act fun s => (next s).attempt

theorem step_bind (act : Supply × σ → ε × Supply × σ) (next : Supply × σ → Process ε σ α)
    (f : α → Process ε σ β) : (step act next >>= f) = step act fun s => next s >>= f := rfl

theorem bind_pure_self (p : Process ε σ α) : (p >>= pure) = p := by
  induction p with
  | done r => cases r <;> rfl
  | step act next ih => simp only [step_bind, ih]

theorem bind_bind {γ : Type} (p : Process ε σ α) (f : α → Process ε σ β)
    (g : β → Process ε σ γ) : (p >>= f >>= g) = p >>= fun a => f a >>= g := by
  induction p with
  | done r => cases r <;> rfl
  | step act next ih => simp only [step_bind, ih]

instance : LawfulMonad (Process ε σ) :=
  LawfulMonad.mk' _ bind_pure_self (fun _ _ => rfl) bind_bind

@[simp] theorem run_done (r : Except Fault α) :
    (done r : Process ε σ α).run = Call.ofExcept r := by cases r <;> rfl

@[simp] theorem run_pure (a : α) : (pure a : Process ε σ α).run = pure a := rfl

@[simp] theorem run_ite (c : Prop) [Decidable c] (p q : Process ε σ α) :
    (if c then p else q).run = if c then p.run else q.run := apply_ite run c p q

@[simp] theorem run_atomically (c : Call σ α) (shown : Except Fault α → ε) :
    (atomically c shown).run = c := rfl

@[simp] theorem run_bind (p : Process ε σ α) (f : α → Process ε σ β) :
    (p >>= f).run = p.run >>= fun a => (f a).run := by
  induction p with
  | done r => cases r <;> rfl
  | step act next ih =>
    funext s
    exact congrFun (ih s) (act s).2

@[simp] theorem run_map (f : α → β) (p : Process ε σ α) : (f <$> p).run = f <$> p.run := by
  rw [map_eq_pure_bind, run_bind, map_eq_pure_bind]
  rfl

@[simp] theorem run_attempt (p : Process ε σ α) : p.attempt.run = Call.attempt p.run := by
  induction p with
  | done r => rfl
  | step act next ih =>
    funext s
    exact congrFun (ih s) (act s).2

@[simp] theorem run_mapM (f : α → Process ε σ β) (as : List α) :
    (as.mapM f).run = as.mapM fun a => (f a).run := by
  induction as with
  | nil => rfl
  | cons a as ih => simp [ih]

@[simp] theorem run_forM (f : α → Process ε σ PUnit) (as : List α) :
    (forM as f).run = forM as fun a => (f a).run := by
  induction as with
  | nil => rfl
  | cons a as ih => simp [ih]

@[simp] theorem run_listForM (f : α → Process ε σ PUnit) (as : List α) :
    (as.forM f).run = as.forM fun a => (f a).run := run_forM f as

end Process

end Backoffice

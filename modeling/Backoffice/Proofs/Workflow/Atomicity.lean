import Backoffice.Proofs.Workflow.Rollback

namespace Backoffice.Workflow.Runtime

theorem failed_call_changes_nothing (e : Engine) (calls : List (Context × Command))
    (supply : Supply) (turns : List Turn) (engine : Engine) (bound : Bool) (ctx : Context)
    (c : Command) (supply' : Supply) (f : Fault) :
    let r : Runtime := { reached e calls supply turns with engine, bound }
    ((c.call ctx).runOn supply' r).1 = .error f → ((c.call ctx).runOn supply' r).2.2 = r := by
  intro r hf
  have hsound : r.store.Sound := (reached_written hereditary_sound e calls supply turns).1
  have hends : Ends r ((c.call ctx).runOn supply' r).1 ((c.call ctx).runOn supply' r).2.2 :=
    call_ends hsound ctx c supply'
  rw [hf] at hends
  generalize ((c.call ctx).runOn supply' r).2.2 = r' at hends ⊢
  cases hends with
  | failed => rfl

/-- A definition without transitions is refused, and the runtime stays as it is. -/
theorem failed_call_changes_nothing_empty :
    let c : Command :=
      .updateWorkflow "review" { Update.none with definition := some ⟨"draft", []⟩ } 2
    (∃ f, ((c.call .empty).runOn ⟨⟨0, 0⟩, 0⟩ republished).1 = .error f) ∧
      ((c.call .empty).runOn ⟨⟨0, 0⟩, 0⟩ republished).2.2 = republished := by
  intro c
  have hfails : ((c.call .empty).runOn ⟨⟨0, 0⟩, 0⟩ republished).1.toOption.isNone = true := by
    decide
  cases h : ((c.call .empty).runOn ⟨⟨0, 0⟩, 0⟩ republished).1 with
  | ok a =>
    rw [h] at hfails
    cases hfails
  | error f => exact ⟨⟨f, rfl⟩, failed_call_changes_nothing _ _ _ _ _ _ _ c _ f h⟩

end Backoffice.Workflow.Runtime

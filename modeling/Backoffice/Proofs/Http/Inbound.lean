import Backoffice.Http.Assignments
import Backoffice.Http.Panels
import Backoffice.Http.Workflows
import Backoffice.Proofs.Ensures
import Backoffice.Proofs.Text.Key

namespace Backoffice

open Call (Quiet quiet_asks quiet_ofExcept quiet_pure quiet_throw)

def Office.Grants (o : Office) (ctx : Context) (g : Guard) (resource : String) : Prop :=
  o.authorizer ctx (o.config.permission g) resource = true

def Office.Enables (o : Office) (ctx : Context) (feature : String) : Prop :=
  o.gate.isEnabled ctx feature = .ok true

namespace Reader

variable {α β : Type} {P : α → Prop}

def Yields (r : Reader α) (P : α → Prop) : Prop := ∀ parts a rest, r parts = some (a, rest) → P a

theorem Yields.decoder {r : Reader α} (hr : r.Yields P) {v : Json} {a : α}
    (h : r.decoder v = some a) : P a := by
  unfold Reader.decoder at h
  split at h
  · obtain ⟨⟨b, rest⟩, hread, rfl⟩ := Option.map_eq_some_iff.1 h
    exact hr _ _ _ hread
  · split at h
    · rename_i hread
      cases h
      exact hr _ _ _ hread
    · cases h
  · cases h

end Reader

namespace Http

variable {o : Office} {i : Inbound} {ctx : Context}

namespace Inbound

def contextIn (i : Inbound) (o : Office) : Except Fault Context :=
  contextOf ⟨o.config.defaultLocale, o.config.defaultEnvironment⟩ i.request.headers
    (formDict i.pairs) i.actor

def user (i : Inbound) : String := (i.actor.map (·.id)).getD ""

theorem quiet_context (i : Inbound) : i.context.Quiet := quiet_asks _

theorem answers_context : i.context.Answers o ctx ↔ i.contextIn o = .ok ctx := Call.answers_asks

theorem quiet_params2 (i : Inbound) : i.params2.Quiet := by
  refine (quiet_ofExcept _).bind fun params => ?_
  split
  · exact quiet_pure _
  · exact quiet_throw _

theorem allParams_of_params2 {a b : String} (h : i.params2.Answers o (a, b)) :
    ∃ rest, i.allParams = .ok (a :: b :: rest) := by
  obtain ⟨params, hparams, h⟩ := h.bind (quiet_ofExcept _)
  obtain ⟨_, h⟩ := h
  rw [Call.answers_ofExcept] at hparams
  split at h <;> cases h
  exact ⟨_, hparams⟩

theorem quiet_fields {α : Type} (i : Inbound) (known : List String) (d : Decoder α) :
    (i.fields known d).Quiet := by
  unfold fields
  split
  · exact quiet_pure _
  · exact quiet_throw _

theorem quiet_body {α : Type} (i : Inbound) (b : BodyType α) : (i.body b).Quiet := quiet_asks _

end Inbound

theorem quiet_requireFeature (ctx : Context) (feature : String) :
    (requireFeature ctx feature).Quiet := quiet_asks _

structure Admits (o : Office) (ctx : Context) (g : Guard) : Prop where
  feature : o.Enables ctx Feature.assignmentQueue
  permission : o.Grants ctx g "translations"

theorem quiet_panelNamed (ctx : Context) (name : String) : (panelNamed ctx name).Quiet :=
  quiet_asks _

theorem findPanel_of_panelNamed {name : String} {p : Panel}
    (h : (panelNamed ctx name).Answers o p) : findPanel o.site.registry ctx name = .ok p :=
  (Call.answers_asks (f := fun o : Office => findPanel o.site.registry ctx name)).1 h

end Http

end Backoffice

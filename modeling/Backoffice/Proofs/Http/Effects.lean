import Backoffice.Proofs.Assignment.Performers
import Backoffice.Proofs.Http.Inbound
import Backoffice.Proofs.Http.Routing
import Backoffice.Proofs.Panel.Operations

/-!
What each handler may do to the office, and on whose word.

A handler leaves the stored data as it was, or it had the word of an authorizer: that of the office
(`Granted`), or that of the panel the request names (`PanelGrants`), behind which there are records
(`ThroughPanel`) and code of the host. How assignments change is told by `QueueChange`. What holds of
every request is read off these effects.
-/

namespace Backoffice

open Call (Leaves ensures_pure ensures_state ensures_throw quiet_asks quiet_ofExcept quiet_pure)

def Office.assignments (o : Office) : Assignment.Store := o.services.assignments

namespace Dashboard

/-- Some widget that the user is shown runs code of the host. -/
def DrawsHost (d : Dashboard) (authorizer : Authorizer) (ctx : Context) : Prop :=
  ∃ w ∈ d.widgets, shows authorizer ctx (d.preferencesFor ctx.userId) w = true ∧
    ∃ run, w.content = .host run

end Dashboard

namespace Http

open Assignment (Operation)
open Assignment.Queue (Performs)
open Relation (ReflTransGen)

variable {o o' : Office} {i : Inbound} {h : Handler} {ctx : Context}

/-- The stored data is as it was. -/
structure Kept (o o' : Office) : Prop where
  rest : o' = { o with services := o'.services }
  services : o.services.Reads o'.services

theorem Kept.refl (o : Office) : Kept o o := ⟨rfl, .refl _⟩

structure Addresses (i : Inbound) (o : Office) (ctx : Context) (p : Panel) : Prop where
  context : i.contextIn o = .ok ctx
  panel : ∃ name rest, i.allParams = .ok (name :: rest) ∧
    findPanel o.site.registry ctx name = .ok p

def draftGuard (d : Assignment.Draft) : Guard :=
  if d.assigneeId.isSome then .assignmentsAssign else .assignmentsManage

structure PanelGrants (i : Inbound) (o : Office) (p : Panel) (ctx : Context) (permission : String) :
    Prop where
  addresses : Addresses i o ctx p
  asks : p.Asks permission
  authorized : p.authorize ctx permission = .ok ()

/-- Changes, if any, are to panel records. -/
structure ThroughPanel (o o' : Office) : Prop where
  rest : o' = { o with services := o'.services }
  services : Panel.RecordsOnly o.services o'.services

/-- How a handler changed assignments, and what let it. -/
inductive QueueChange (o : Office) (i : Inbound) : Handler → Office → Prop
  | created {ctx : Context} {d : Assignment.Draft} {now : Instant} {fresh : String} {o' : Office} :
      i.contextIn o = .ok ctx → Admits o ctx (draftGuard d) →
      o'.assignments = o.assignments.write (d.assignment i.user now fresh) →
      QueueChange o i createAssignment o'
  | operated {ctx : Context} {caller : Actor} {id name : String} {rest : List String}
      {op : Operation} {o' : Office} : i.contextIn o = .ok ctx → i.actor = some caller →
      i.allParams = .ok (id :: name :: rest) → Operation.parse? name = some op →
      Admits o ctx (guardOf op) → Performs op caller.id o.assignments o'.assignments →
      QueueChange o i runOperation o'
  | operatedBulk {ctx : Context} {caller : Actor} {name : String} {op : Operation} {o' : Office} :
      i.contextIn o = .ok ctx → i.actor = some caller → i.allParams = .ok [name] →
      Operation.parse? name = some op → Admits o ctx (guardOf op) →
      ReflTransGen (Performs op caller.id) o.assignments o'.assignments →
      QueueChange o i runBulkOperation o'
  | commanded {ctx : Context} {name : String} {o' : Office} : i.contextIn o = .ok ctx →
      i.allParams = .ok [name] → o.Enables ctx Feature.commands →
      o.Grants ctx .commandsExecute name → QueueChange o i executeCommand o'
  | drawn {ctx : Context} {o' : Office} : i.contextIn o = .ok ctx →
      o.Enables ctx Feature.dashboard → o.Grants ctx .dashboardView Dashboard.resource →
      o.dashboard.DrawsHost o.authorizer ctx → QueueChange o i getDashboard o'
  | hooked {h : Handler} {ctx : Context} {p : Panel} {permission : String} {o' : Office} :
      PanelGrants i o p ctx permission → p.hooks ≠ .none → QueueChange o i h o'
  | acted {h : Handler} {ctx : Context} {p : Panel} {a : Panel.Action} {o' : Office} :
      h = runAction ∨ h = runBulkAction → PanelGrants i o p ctx (p.permissionFor a) →
      a ∈ p.actions ++ p.bulkActions → p.Delegates a → QueueChange o i h o'

def Untouched (o o' : Office) : Prop := o'.assignments = o.assignments

theorem Kept.untouched (hk : Kept o o') : Untouched o o' := by
  rw [Untouched, Office.assignments, hk.services.rest]
  rfl

theorem ThroughPanel.untouched (ht : ThroughPanel o o') : Untouched o o' := by
  rw [Untouched, Office.assignments, ht.services.rest]
  rfl

def Granted (o : Office) (i : Inbound) : Prop :=
  ∃ ctx g resource, i.contextIn o = .ok ctx ∧ o.Grants ctx g resource

inductive Effect (o : Office) (i : Inbound) (h : Handler) (o' : Office) : Prop
  | kept : Kept o o' → Effect o i h o'
  | granted : Granted o i → Untouched o o' → Effect o i h o'
  | recorded {p : Panel} {ctx : Context} {permission : String} :
      PanelGrants i o p ctx permission → ThroughPanel o o' → Effect o i h o'
  | queue : QueueChange o i h o' → Effect o i h o'

theorem Effect.same : Effect o i h o := .kept (.refl o)

theorem Effect.assignments (he : Effect o i h o') : Untouched o o' ∨ QueueChange o i h o' := by
  cases he with
  | kept hkept => exact .inl hkept.untouched
  | granted _ hsame => exact .inl hsame
  | recorded _ hthrough => exact .inl hthrough.untouched
  | queue hq => exact .inr hq

theorem leaves_onRuntime {α : Type} (c : Call Workflow.Runtime α) (answer : α → Response)
    (o : Office) : (do pure (answer (← Office.onRuntime c))).Leaves o (Untouched o) :=
  Leaves.answer fun _ => rfl

theorem leaves_onServices {α : Type} {c : Call Services α} (answer : α → Response)
    (hc : c.Leaves o.services o.services.Reads) :
    (do pure (answer (← Office.onServices c))).Leaves o (Effect o i h) := by
  refine Leaves.bind (I := Kept o) ?_ (fun _ _ ht => ensures_pure (.kept ht)) fun _ ht => .kept ht
  exact Call.Ensures.within (hc.imp fun _ _ ht => ⟨rfl, ht⟩)

theorem leaves_search : (search i).Leaves o (Effect o i h) := by
  refine i.quiet_context.before .same fun ctx _ => ?_
  refine (i.quiet_fields _ _).before .same fun (q, limit) _ => ?_
  refine (quiet_requireFeature _ _).before .same fun _ _ => ?_
  refine Call.Ensures.seq (Call.ensures_reads ?_)
  exact leaves_onServices _ (o.site.registry.leaves_search ctx q _ o.services)

theorem addresses_of_panelNamed {name : String} {rest : List String} {p : Panel}
    (hctx : i.context.Answers o ctx) (hparams : i.allParams = .ok (name :: rest))
    (hp : (panelNamed ctx name).Answers o p) : Addresses i o ctx p :=
  ⟨Inbound.answers_context.1 hctx, name, rest, hparams, findPanel_of_panelNamed hp⟩

theorem Effect.of_records {p : Panel} {t : Services} (ha : Addresses i o ctx p)
    (ht : p.Records ctx o.services t) : Effect o i h { o with services := t } := by
  cases ht with
  | refused hsame =>
    subst hsame
    exact .same
  | written hasks hauthorized honly =>
    by_cases hhooks : p.hooks = .none
    · exact .recorded ⟨ha, hasks, hauthorized⟩ ⟨rfl, honly hhooks⟩
    · exact .queue (.hooked ⟨ha, hasks, hauthorized⟩ hhooks)

theorem leaves_runs {α : Type} {p : Panel} {c : Call Services α} (answer : α → Response)
    (hh : h = runAction ∨ h = runBulkAction) (ha : Addresses i o ctx p)
    (hc : c.Leaves o.services (p.Runs ctx o.services)) :
    (do pure (answer (← Office.onServices c))).Leaves o (Effect o i h) := by
  refine Leaves.answer ?_
  refine Call.Ensures.within (hc.imp fun _ t ht => ?_)
  cases ht with
  | records ht => exact .of_records ha ht
  | delegated hdeclared hdelegates hauthorized =>
    exact .queue (.acted hh ⟨ha, .action hdeclared, hauthorized⟩ hdeclared hdelegates)

theorem leaves_runAction : (runAction i).Leaves o (Effect o i runAction) := by
  refine i.quiet_context.before .same fun ctx hctx => ?_
  refine i.quiet_params2.before .same fun (name, action) hparams => ?_
  refine (i.quiet_body _).before .same fun r _ => ?_
  refine (quiet_panelNamed _ _).before .same fun p hp => ?_
  obtain ⟨rest, hparams⟩ := Inbound.allParams_of_params2 hparams
  have ha := addresses_of_panelNamed hctx hparams hp
  exact leaves_runs _ (.inl rfl) ha (p.leaves_runAction ctx action r o.services)

theorem leaves_runBulkAction : (runBulkAction i).Leaves o (Effect o i runBulkAction) := by
  refine i.quiet_context.before .same fun ctx hctx => ?_
  refine i.quiet_params2.before .same fun (name, action) hparams => ?_
  refine (i.quiet_body _).before .same fun r _ => ?_
  refine (quiet_requireFeature _ _).before .same fun _ _ => ?_
  refine (quiet_panelNamed _ _).before .same fun p hp => ?_
  obtain ⟨rest, hparams⟩ := Inbound.allParams_of_params2 hparams
  have ha := addresses_of_panelNamed hctx hparams hp
  exact leaves_runs _ (.inr rfl) ha (p.leaves_runBulkAction ctx action r o.services)

end Http

end Backoffice

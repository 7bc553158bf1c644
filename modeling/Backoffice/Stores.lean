import Backoffice.Assignment.Queue
import Backoffice.Content.Records
import Backoffice.Feature.Gate
import Backoffice.Workflow.Policy
import Backoffice.Workflow.Runtime

namespace Backoffice

/-- What the services keep, and what the host's code keeps for itself. Any step of that code may leave
any of it changed. -/
structure Stores where
  /-- Repositories of the host, by handle. -/
  tables : Dict Repository
  content : ContentRecords
  runtime : Workflow.Runtime
  enforcer : Workflow.Enforcer
  gate : Feature.Gate
  assignments : Assignment.Store
  tallies : Dict Nat
  journal : List String

namespace Stores

def empty : Stores where
  tables := .empty
  content := .empty
  runtime := .empty
  enforcer := ⟨none, Workflow.VetoLabels.entity, []⟩
  gate := ⟨.empty, some []⟩
  assignments := .empty
  tallies := .empty
  journal := []

def onAssignments {α : Type} (c : Call Assignment.Store α) : Call Stores α :=
  c.within (·.assignments) fun x s => { s with assignments := x }

end Stores

end Backoffice

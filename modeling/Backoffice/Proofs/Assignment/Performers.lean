import Mathlib.Logic.Relation
import Backoffice.Proofs.Assignment.WellFormed
import Backoffice.Proofs.Ensures

namespace Backoffice.Assignment.Queue

open Call (Leaves Quiet ensures_mapM ensures_pure ensures_throw quiet_ofExcept)
open Relation (ReflTransGen)

inductive Performs (op : Operation) (user : String) (s : Store) : Store → Prop
  | write {current next row : Assignment} {action : Action} {now : Instant} :
      s.rows.get? action.id = some current → action.actorId = user → action.validate = .ok () →
      op.apply current action now = .ok next →
      row = { next with
        version := row.version, createdAt := row.createdAt, updatedAt := row.updatedAt,
        lastKey := row.lastKey, lastOperation := row.lastOperation } →
      Performs op user s (s.write row)

theorem leaves_execute (q : Request) (s : Store) : (execute q.ctx q.op q.action).Leaves s fun t =>
    t = s ∨ Performs q.op (actor q.ctx q.action.actorId) s t := by
  intro supply
  rcases execute_cases q supply s with ⟨_, _, -, heq⟩ | ⟨_, _, -, heq⟩ | ⟨row, supply', hlook, heq⟩
  · exact .inl (by rw [heq])
  · exact .inl (by rw [heq])
  · rw [heq, commit, Call.atomic_apply]
    rcases look_eq_ok hlook with ⟨_, hplan, -⟩ | ⟨_, hplan, current, now, next, hcurrent, -, happly, rfl⟩
    · cases hplan
    · cases hplan
      have hcurrent : s.rows.get? q.filled.id = some current := hcurrent
      split
      · rename_i b t hreplace
        obtain ⟨stored, -, ⟨-, -, rfl⟩ | ⟨-, -, rfl, -, rfl⟩⟩ := Store.replace_eq_ok hreplace
        · exact .inl rfl
        · exact .inr (.write hcurrent rfl (look_entered hlook) happly rfl)
      · exact .inl rfl

theorem leaves_create (ctx : Context) (d : Draft) (s : Store) : (create ctx d).Leaves s fun t =>
    t = s ∨ ∃ now fresh, t = s.write (d.assignment (actor ctx d.actorId) now fresh) := by
  refine Call.quiet_now.before (.inl rfl) fun now _ => ?_
  refine Call.quiet_fresh.before (.inl rfl) fun fresh _ => ?_
  refine (quiet_ofExcept _).before (.inl rfl) fun _ _ => ?_
  refine Call.ensures_atomic (fun a t h => ?_) fun _ _ => .inl rfl
  obtain ⟨-, -, -, rfl⟩ := Store.insert_eq_ok h
  exact .inr ⟨now, fresh, rfl⟩

end Backoffice.Assignment.Queue

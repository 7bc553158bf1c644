import Backoffice.Proofs.Assignment.History
import Backoffice.Proofs.Assignment.Lifecycle

namespace Backoffice.Assignment.Queue

structure Warranted (e : Event) (s t : Store) : Prop where
  allowed : Allowed e s t
  entered : ∀ q a, e = .ended q (.ok a) → q.filled.validate = .ok ()
  looked : ∀ q a, e = .looked q → s.rows.get? q.action.id = some a → ¬Repeats q a
  repeated : ∀ q r a, e = .ended q r → s.rows.get? q.action.id = some a → Repeats q a → t = s
  unavailable : ∀ q f, e = .ended q (.error f) → Unavailable f →
    ∃ a now, s.rows.get? q.action.id = some a ∧ q.op.apply a q.filled now = .error f

theorem Warranted.of_allowed {e : Event} {s t : Store} (h : Allowed e s t)
    (hlooked : ∀ q, e ≠ .looked q) (hended : ∀ q r, e ≠ .ended q r) : Warranted e s t := by
  constructor
  case allowed => exact h
  all_goals simp [hlooked, hended]

theorem look_entered {q : Request} {supply : Supply} {s : Store} {plan : Plan}
    (h : (look q (supply, s)).1 = .ok plan) : q.filled.validate = .ok () := by
  rw [(look_apply q supply s).2] at h
  obtain ⟨action, hlet, -⟩ := bind_eq_ok.1 h
  obtain ⟨-, rfl, hvalid⟩ := letIn_eq_ok hlet
  exact hvalid

theorem lookEvent_warranted (q : Request) (supply : Supply) (s : Store) :
    Warranted (lookEvent q (look q (supply, s)).1) s s := by
  have hallowed := lookEvent_allowed q supply s
  cases h : (look q (supply, s)).1 with
  | error f =>
    rw [h] at hallowed
    constructor
    case allowed => exact hallowed
    case entered | looked => simp [lookEvent]
    case repeated => simp
    case unavailable =>
      intro q' f' he hf
      cases he
      rcases look_eq_error h with hplain | hrow
      · exact absurd hf hplain.available
      · exact hrow
  | ok plan =>
    rw [h] at hallowed
    cases plan with
    | replay row =>
      constructor
      case allowed => exact hallowed
      case entered =>
        intro q' a he
        cases he
        exact look_entered h
      case repeated => simp
      case looked | unavailable => simp [lookEvent]
    | write row =>
      constructor
      case allowed => exact hallowed
      case looked =>
        -- had the key been on the row, the plan would have been to answer with it
        intro q' a he ha hrepeats
        cases he
        cases look_of_repeats h ha hrepeats
      case repeated => simp
      case entered | unavailable => simp [lookEvent]

theorem commit_available {q : Request} {row : Assignment} {supply : Supply} {t : Store} {f : Fault}
    (h : (commit q row (supply, t)).1 = .error f) : ¬Unavailable f := by
  rw [commit, Call.atomic_apply] at h
  split at h <;> cases h
  rename_i hreplace
  rcases Store.replace_eq_error hreplace with hplain | ⟨_, -, -, hcheck⟩
  · exact hplain.available
  · obtain ⟨-, _, _, -, -, -, -, rfl⟩ := Store.checkUnique_eq_error hcheck
    rintro ⟨_, _, _, ⟨⟩⟩

theorem commit_repeated {q : Request} {row a : Assignment} {s t : Store} (supply : Supply)
    (hs : Filed s) (hrow : Pending q row s) (ha : t.rows.get? q.action.id = some a)
    (hrepeats : Repeats q a) : (commit q row (supply, t)).2.2 = t := by
  rw [commit, Call.atomic_apply]
  cases h : t.replace q.ctx row q.action.expectedVersion with
  | error f => rfl
  | ok written =>
    obtain ⟨_, u⟩ := written
    obtain ⟨stored, hstored, h⟩ := Store.replace_eq_ok h
    rw [hrow.id hs, ha] at hstored
    cases hstored
    rcases h with ⟨-, -, rfl⟩ | ⟨hreplay, -⟩
    · rfl
    · rw [(hrow.isReplay a).2 hrepeats] at hreplay
      cases hreplay

theorem commit_warranted {q : Request} {row : Assignment} {s t : Store} (supply : Supply)
    (hs : Filed s) (hrow : Planned q row s) (hst : Moved s t) :
    Warranted (.ended q (commit q row (supply, t)).1) t (commit q row (supply, t)).2.2 := by
  constructor
  case allowed => exact commit_allowed supply hs hrow.pending hst
  case entered =>
    intro q' a he
    obtain ⟨_, hlook⟩ := hrow
    injection he with hq
    exact hq ▸ look_entered hlook
  case looked => simp
  case repeated =>
    intro q' r a he ha hrepeats
    injection he with hq
    subst hq
    exact commit_repeated supply hs hrow.pending ha hrepeats
  case unavailable =>
    intro q' f he hf
    injection he with _ he
    exact absurd hf (commit_available he)

def warrant : Contract Event Store where
  Inv := Filed
  Rely := Moved
  Guar := Warranted
  refl := Moved.refl
  trans := Moved.trans
  keeps hs h := Allowed.keeps hs h.allowed

theorem keeps_warrant (ctx : Context) (c : Command) (s : Store) : (process ctx c).Keeps warrant s := by
  apply keeps_process_of
  case hcreate => exact fun ctx d supply t _ => .of_allowed (create_allowed ctx d supply t) (by simp) (by simp)
  case hlist => exact fun t _ => .of_allowed .listed (by simp) (by simp)
  case hexecute =>
    intro q
    apply keeps_executeSteps_of
    case hlook => exact fun supply t _ => lookEvent_warranted q supply t
    case hcommit => exact fun row t hs hrow supply u _ htu => commit_warranted supply hs hrow htu

theorem play_warranted (calls : List (Context × Command)) (supply : Supply) (turns : List Turn) :
    warrant.Allows .empty ((start calls supply).play turns).1
      ((start calls supply).play turns).2.state := by
  apply World.play_allowed (start calls supply) turns filed_empty
  intro p hp
  obtain ⟨c, -, rfl⟩ := List.mem_map.1 hp
  exact keeps_warrant c.1 c.2 _

inductive RowStep (e : Event) : Option Assignment → Option Assignment → Prop
  | same {row : Option Assignment} : RowStep e row row
  | begun {ctx : Context} {d : Draft} {now : Instant} {fresh : String} :
      e = .created ctx d (.ok (d.assignment (actor ctx d.actorId) now fresh)) →
      (d.assignment (actor ctx d.actorId) now fresh).validate = .ok () →
      RowStep e none (some (d.assignment (actor ctx d.actorId) now fresh))
  | advanced {q : Request} {current row : Assignment} : e = .ended q (.ok row) →
      q.filled.validate = .ok () → Advances q current row → RowStep e (some current) (some row)

theorem Advances.effect {q : Request} {current row : Assignment} (h : Advances q current row) :
    ∃ now next, Operation.Effect q.filled now current q.op next ∧
      row = { q.mark next now with version := current.version + 1 } := by
  obtain ⟨now, next, happly, hrow⟩ := h.applied
  exact ⟨now, next, Operation.effect_of_apply happly, hrow⟩

theorem Warranted.row {e : Event} {s t : Store} (h : Warranted e s t) (hs : Filed s) (id : String) :
    RowStep e (s.rows.get? id) (t.rows.get? id) := by
  cases h.allowed with
  | listed | notCreated | looked | refused | repeated => exact .same
  | created hvalid hinsert =>
    obtain ⟨-, habsent, -, rfl⟩ := Store.insert_eq_ok hinsert
    rw [Store.get?_write]
    split
    · rename_i hid
      rw [hid, habsent]
      exact .begun rfl hvalid
    · exact .same
  | advanced hcurrent hadv =>
    rw [Store.get?_write]
    split
    · rename_i hid
      rw [hid, hadv.id, hs _ _ hcurrent, hcurrent]
      exact .advanced rfl (h.entered _ _ rfl) hadv
    · exact .same

end Backoffice.Assignment.Queue

import Backoffice.Proofs.Assignment.History

namespace Backoffice.Assignment.Queue

def Exclusive (s : Store) : Prop :=
  ∀ id id' a b, s.rows.get? id = some a → s.rows.get? id' = some b → a.isOpen → b.isOpen →
    a.work = b.work → id = id'

theorem exclusive_empty : Exclusive .empty := by
  intro id id' a b ha
  cases ha

theorem Exclusive.write {s : Store} (h : Exclusive s) (hs : Filed s) {a : Assignment}
    (ha : s.checkUnique a = .ok ()) : Exclusive (s.write a) := by
  intro id id' b c hb hc hopen hopen' hwork
  rw [Store.get?_write] at hb hc
  split at hb <;> split at hc
  · simp_all
  · rename_i hid hid'
    cases hb
    rw [hid, ← Store.checkUnique_eq_ok ha hopen hc hopen' hwork.symm, hs _ _ hc]
  · rename_i hid hid'
    cases hc
    rw [hid', ← Store.checkUnique_eq_ok ha hopen' hb hopen hwork, hs _ _ hb]
  · exact h id id' b c hb hc hopen hopen' hwork

theorem Allowed.exclusive {e : Event} {s t : Store} (hs : Filed s) (h : Exclusive s)
    (hstep : Allowed e s t) : Exclusive t := by
  cases hstep with
  | listed | notCreated | looked | refused | repeated => exact h
  | created _ hinsert =>
    obtain ⟨-, -, hunique, rfl⟩ := Store.insert_eq_ok hinsert
    exact h.write hs hunique
  | advanced _ _ hunique => exact h.write hs hunique

theorem Advances.work {q : Request} {current row : Assignment} (h : Advances q current row) :
    row.work = current.work := by
  rw [h.frame]
  rfl

theorem Advances.isOpen {q : Request} {current row : Assignment} (h : Advances q current row) :
    current.isOpen := by
  obtain ⟨now, next, happly, -⟩ := h.applied
  exact Operation.isOpen_of_apply happly

theorem Exclusive.checkUnique {s : Store} (h : Exclusive s) (hs : Filed s) {q : Request}
    {current row : Assignment} (hcurrent : s.rows.get? q.action.id = some current)
    (hadv : Advances q current row) : s.checkUnique row = .ok () := by
  cases hcheck : s.checkUnique row with
  | ok => rfl
  | error f =>
    obtain ⟨-, id, other, hother, hid, hopen, hwork, -⟩ := Store.checkUnique_eq_error hcheck
    have hsame := h _ _ _ _ hother hcurrent hopen hadv.isOpen (hwork.trans hadv.work)
    rw [hadv.id, hs _ _ hother, hs _ _ hcurrent] at hid
    exact absurd hsame hid

theorem Allowed.ended_not_taken {q : Request} {f : Fault} {s t : Store}
    (hstep : Allowed (.ended q (.error f)) s t) (hs : Filed s) (h : Exclusive s) : ¬Taken f := by
  intro htaken
  cases hstep with
  | refused hf =>
    obtain ⟨current, row, hcurrent, hadv, hcheck⟩ := hf htaken
    rw [h.checkUnique hs hcurrent hadv] at hcheck
    cases hcheck

theorem Allowed.not_created {ctx : Context} {d : Draft} {f : Fault} {s t : Store}
    (hstep : Allowed (.created ctx d (.error f)) s t) : t = s ∧ (Taken f → ∃ now fresh,
      s.checkUnique (d.assignment (actor ctx d.actorId) now fresh) = .error f) := by
  cases hstep with
  | notCreated hf => exact ⟨rfl, hf⟩

theorem execute_not_taken {s : Store} (hs : Filed s) (h : Exclusive s) (q : Request)
    (supply : Supply) {f : Fault} (hf : (execute q.ctx q.op q.action (supply, s)).1 = .error f) :
    ¬Taken f := by
  rcases execute_cases q supply s with ⟨_, _, hlook, heq⟩ | ⟨_, _, -, heq⟩ | ⟨row, supply', hlook, heq⟩
  · rw [heq] at hf
    cases hf
    exact look_not_taken hlook
  · rw [heq] at hf
    cases hf
  · have hallowed := commit_allowed supply' hs (Planned.pending ⟨supply, hlook⟩) (Moved.refl s)
    rw [heq] at hf
    rw [hf] at hallowed
    exact hallowed.ended_not_taken hs h

structure Holds (s : Store) (row a : Assignment) : Prop where
  stored : s.rows.get? row.id = some row
  isOpen : row.isOpen
  work : row.work = a.work
  only : ∀ id other, s.rows.get? id = some other → other.isOpen → other.work = a.work → other = row

theorem Exclusive.holds {s : Store} (h : Exclusive s) (hs : Filed s) {a : Assignment} {f : Fault}
    (hf : s.checkUnique a = .error f) :
    ∃ row, Holds s row a ∧ row.id ≠ a.id ∧ f = .assignmentTaken row.id a.work.text := by
  obtain ⟨-, id, row, hrow, hne, hopen, hwork, rfl⟩ := Store.checkUnique_eq_error hf
  cases hs _ _ hrow
  refine ⟨row, ⟨hrow, hopen, hwork, ?_⟩, hne, rfl⟩
  intro id other hother hopen' hwork'
  cases h _ _ _ _ hother hrow hopen' hopen (hwork'.trans hwork.symm)
  exact Option.some.inj (hother.symm.trans hrow)

def openContract : Contract Event Store where
  Inv s := Filed s ∧ Exclusive s
  Rely := Moved
  Guar := Allowed
  refl := Moved.refl
  trans := Moved.trans
  keeps hs h := ⟨⟨(Allowed.keeps hs.1 h).1, h.exclusive hs.1 hs.2⟩, (Allowed.keeps hs.1 h).2⟩

structure Refused (ms : List (Moment Event Store)) (i : Nat) (a : Assignment) (id work : String) :
    Prop where
  named : ∃ m ∈ ms, m.call = i ∧ ∃ row, Holds m.before row a ∧ row.id ≠ a.id ∧ row.id = id ∧
    a.work.text = work
  unchanged : ∀ m ∈ ms, m.call = i → m.after = m.before

/-- Open rows are about different work; only creations are refused for it. -/
structure Separate (calls : List (Context × Command)) (ms : List (Moment Event Store))
    (w : World Event Store Answer) : Prop where
  exclusive : ∀ a ∈ w.state.rows.values, ∀ b ∈ w.state.rows.values, a.isOpen → b.isOpen →
    a.work = b.work → a = b
  create : ∀ (i : Nat) ctx d id work, calls[i]? = some (ctx, .create d) →
    w.calls[i]? = some (.done (.error (.assignmentTaken id work))) →
    ∃ now fresh, Refused ms i (d.assignment (actor ctx d.actorId) now fresh) id work
  single : ∀ (i : Nat) ctx op action f, calls[i]? = some (ctx, .single op action) →
    w.calls[i]? = some (.done (.error f)) → ¬Taken f
  bulk : ∀ (i : Nat) ctx op b os, calls[i]? = some (ctx, .bulk op b) →
    w.calls[i]? = some (.done (.ok (.outcomes os))) → ∀ o ∈ os, ∀ f, o.result = .error f → ¬Taken f
  execute : ∀ supply ctx op action f, (execute ctx op action (supply, w.state)).1 = .error f →
    ¬Taken f

theorem Exclusive.values {s : Store} (h : Exclusive s) {a b : Assignment}
    (ha : a ∈ s.rows.values) (hb : b ∈ s.rows.values) (hopen : a.isOpen) (hopen' : b.isOpen)
    (hwork : a.work = b.work) : a = b := by
  obtain ⟨id, ha⟩ := (Dict.mem_values_iff _ _).1 ha
  obtain ⟨id', hb⟩ := (Dict.mem_values_iff _ _).1 hb
  cases h _ _ _ _ ha hb hopen hopen' hwork
  exact Option.some.inj (ha.symm.trans hb)

theorem mem_endings {es : List Event} {q : Request} {r : Except Fault Assignment}
    (h : (q, r) ∈ endings es) : .ended q r ∈ es := by
  obtain ⟨e, he, heq⟩ := List.mem_filterMap.1 h
  split at heq <;> cases heq
  exact he

theorem ended_not_taken {s t : Store} {ms : List (Moment Event Store)}
    (hrun : openContract.Allows s ms t) (hs : Filed s ∧ Exclusive s) {i : Nat} {q : Request}
    {f : Fault} (h : (q, .error f) ∈ endings (eventsOf i ms)) : ¬Taken f := by
  obtain ⟨m, hm, -, hevent⟩ := mem_eventsOf.1 (mem_endings h)
  obtain ⟨hbefore, -, hstep⟩ := hrun.moment hs hm
  exact Allowed.ended_not_taken (hevent ▸ hstep) hbefore.1 hbefore.2

theorem refused_of_events {s t : Store} {ms : List (Moment Event Store)}
    (hrun : openContract.Allows s ms t) (hs : Filed s ∧ Exclusive s) {i : Nat} {ctx : Context}
    {d : Draft} {id work : String}
    (hevents : eventsOf i ms = [.created ctx d (.error (.assignmentTaken id work))]) :
    ∃ now fresh, Refused ms i (d.assignment (actor ctx d.actorId) now fresh) id work := by
  have hstep : ∀ m ∈ ms, m.call = i →
      Allowed (.created ctx d (.error (.assignmentTaken id work))) m.before m.after := by
    intro m hm hi
    have hmem := mem_eventsOf.2 ⟨m, hm, hi, rfl⟩
    rw [hevents, List.mem_singleton] at hmem
    exact hmem ▸ (hrun.moment hs hm).2.2
  obtain ⟨m, hm, hi, -⟩ := mem_eventsOf.1 (hevents ▸ List.mem_singleton_self _)
  obtain ⟨now, fresh, hcheck⟩ := (hstep m hm hi).not_created.2 ⟨id, work, rfl⟩
  have hbefore := (hrun.moment hs hm).1
  obtain ⟨row, hholds, hne, hfault⟩ := hbefore.2.holds hbefore.1 hcheck
  cases hfault
  exact ⟨now, fresh, ⟨m, hm, hi, row, hholds, hne, rfl, rfl⟩,
    fun m' hm' hi' => (hstep m' hm' hi').not_created.1⟩

theorem play_answered {calls : List (Context × Command)} {supply : Supply} {turns : List Turn}
    {i : Nat} {ctx : Context} {c : Command} {r : Except Fault Answer}
    (hi : calls[i]? = some (ctx, c))
    (hr : ((start calls supply).play turns).2.calls[i]? = some (.done r)) :
    Answered ctx c (eventsOf i ((start calls supply).play turns).1) r := by
  refine World.play_shows (start calls supply) turns ?_ (shows_process ctx c) hr
  simp [start, hi]

theorem open_work_exclusive (calls : List (Context × Command)) (supply : Supply)
    (turns : List Turn) :
    Separate calls ((start calls supply).play turns).1 ((start calls supply).play turns).2 := by
  have hstart : openContract.Inv .empty := ⟨filed_empty, exclusive_empty⟩
  have hrun : openContract.Allows .empty ((start calls supply).play turns).1
      ((start calls supply).play turns).2.state := by
    apply World.play_allowed (start calls supply) turns hstart
    intro p hp
    obtain ⟨c, -, rfl⟩ := List.mem_map.1 hp
    exact (keeps_process c.1 c.2 _).weaken And.left (fun h => h) (fun h => h)
  have hend := (hrun.keeps hstart).1
  constructor
  case exclusive => exact fun a ha b hb => hend.2.values ha hb
  case create =>
    intro i ctx d id work hi hdone
    obtain ⟨x, hevents, hanswer⟩ := play_answered hi hdone
    cases error_of_map hanswer
    exact refused_of_events hrun hstart hevents
  case single =>
    intro i ctx op action f hi hdone
    obtain ⟨x, hendings, hanswer⟩ := play_answered hi hdone
    cases error_of_map hanswer
    exact ended_not_taken hrun hstart (hendings ▸ List.mem_singleton_self _)
  case bulk =>
    intro i ctx op b os hi hdone o ho f hf
    rcases play_answered hi hdone with ⟨-, _, hfault⟩ | ⟨_, hos, hreports⟩
    · cases hfault
    · cases hos
      have hmem : .error f ∈
          (endings (eventsOf i ((start calls supply).play turns).1)).map (·.2) := by
        rw [hreports.answers, ← hf]
        exact List.mem_map_of_mem ho
      obtain ⟨⟨q, r⟩, hq, hr⟩ := List.mem_map.1 hmem
      cases hr
      exact ended_not_taken hrun hstart hq
  case execute =>
    intro supply' ctx op action f
    exact execute_not_taken hend.1 hend.2 ⟨ctx, op, action⟩ supply'

end Backoffice.Assignment.Queue

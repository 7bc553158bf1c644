import Backoffice.Proofs.Workflow.Steps

namespace Backoffice.Workflow

namespace Store

structure Exclusive (s : Store) : Prop where
  filed : ∀ {id b}, s.bindings.get? id = some b → b.id = id
  unique : ∀ {id id' b b'}, s.bindings.get? id = some b → s.bindings.get? id' = some b' →
    b.active → b'.active → b.place = b'.place → id = id'

theorem exclusive_empty : Exclusive .empty where
  filed h := by cases h
  unique h := by cases h

theorem Exclusive.congr {s t : Store} (h : Exclusive s) (hst : t.bindings = s.bindings) :
    Exclusive t where
  filed hb := h.filed (hst ▸ hb)
  unique hb hb' := h.unique (hst ▸ hb) (hst ▸ hb')

theorem Exclusive.set {s : Store} (h : Exclusive s) {b : Binding}
    (hb : s.checkUnique b = .ok ()) :
    Exclusive { s with bindings := s.bindings.set b.id b } := by
  have hfree : ∀ {id other}, s.bindings.get? id = some other → id ≠ b.id → other.active →
      b.active → other.place ≠ b.place := by
    intro id other hother hid ho hact hplace
    have hne : other.id ≠ b.id := by
      rw [h.filed hother]
      exact hid
    have hcollides : other.collides b = true := Binding.collides_iff.2 ⟨ho, hact, hne, hplace⟩
    rw [checkUnique_eq_ok hb hother] at hcollides
    cases hcollides
  constructor
  case filed =>
    intro id c hc
    rw [Dict.get?_set] at hc
    split at hc
    · rename_i hid
      cases hc
      exact hid.symm
    · exact h.filed hc
  case unique =>
    intro id id' c c' hc hc' hact hact' hplace
    rw [Dict.get?_set] at hc hc'
    split at hc <;> split at hc'
    · rename_i hid hid'
      exact hid.trans hid'.symm
    · rename_i hid hid'
      cases hc
      exact absurd hplace.symm (hfree hc' hid' hact' hact)
    · rename_i hid hid'
      cases hc'
      exact absurd hplace (hfree hc hid hact hact')
    · exact h.unique hc hc' hact hact' hplace

theorem Exclusive.erase {s : Store} (h : Exclusive s) (id : String) :
    Exclusive { s with bindings := s.bindings.erase id } := by
  have hold : ∀ {j b}, (s.bindings.erase id).get? j = some b → s.bindings.get? j = some b := by
    intro j b hb
    rw [Dict.get?_erase] at hb
    split at hb
    · cases hb
    · exact hb
  exact ⟨fun hb => h.filed (hold hb), fun hb hb' => h.unique (hold hb) (hold hb')⟩

structure Occupies (s : Store) (other b : Binding) : Prop where
  stored : other ∈ s.bindings.values
  active : other.active
  place : other.place = b.place
  only : ∀ o ∈ s.bindings.values, o.active → o.place = b.place → o = other

theorem Exclusive.occupies {s : Store} (h : Exclusive s) {b : Binding} {f : Fault}
    (hf : s.checkUnique b = .error f) :
    ∃ other, s.Occupies other b ∧ other.id ≠ b.id ∧ f = other.taken := by
  obtain ⟨id, other, hother, hcollides, rfl⟩ := checkUnique_eq_error hf
  obtain ⟨hact, -, hne, hplace⟩ := Binding.collides_iff.1 hcollides
  refine ⟨other, ⟨(Dict.mem_values_iff _ _).2 ⟨id, hother⟩, hact, hplace, ?_⟩, hne, rfl⟩
  intro o ho hoact hoplace
  obtain ⟨id', hid'⟩ := (Dict.mem_values_iff _ _).1 ho
  cases h.unique hother hid' hact hoact (hplace.trans hoplace.symm)
  exact Option.some.inj (hid'.symm.trans hother)

end Store

namespace Runtime

open Store (Exclusive)

theorem Allowed.exclusive {e : Event} {r r' : Runtime} (hr : Exclusive r.store)
    (h : Allowed e r r') : Exclusive r'.store := by
  cases h with
  | looked | read | workflowRefused | bindingRefused | notRemoved => exact hr
  | engine hstore => exact hr.congr (by rw [hstore])
  | workflowInserted | workflowReplaced => exact hr.congr rfl
  | bindingWritten _ _ _ _ hunique => exact hr.set hunique
  | removed => exact hr.erase _

def Event.Idle : Event → Prop
  | .looked | .read _ _ | .binding _ (.error _) => True
  | _ => False

theorem Allowed.idle {e : Event} {r r' : Runtime} (h : Allowed e r r') (he : e.Idle) : r' = r := by
  cases h with
  | looked | read | bindingRefused => rfl
  | engine | workflowRefused | workflowInserted | workflowReplaced | bindingWritten | notRemoved
  | removed => exact he.elim

theorem Allowed.stored {id : String} {b : Binding} {r r' : Runtime}
    (h : Allowed (.read id (.ok b)) r r') : r.store.bindings.get? id = some b := by
  cases h with
  | read hb => exact hb b rfl

theorem Allowed.refused {b : Binding} {id t ref : String} {e : Option String} {p : Nat}
    {r r' : Runtime} (h : Allowed (.binding b (.error (.bindingTaken id t ref e p))) r r') :
    r.store.checkUnique b = .error (.bindingTaken id t ref e p) := by
  cases h with
  | bindingRefused hf => exact hf rfl

def bindingContract : Contract Event Runtime where
  Inv r := Exclusive r.store
  Rely _ _ := True
  Guar := Allowed
  refl _ := trivial
  trans _ _ := trivial
  keeps hr h := ⟨Allowed.exclusive hr h, trivial⟩

theorem validated_ne_taken {b : Binding} {id t ref : String} {e : Option String} {p : Nat} :
    (do b.validate; .ok b : Except Fault Binding) ≠ .error (.bindingTaken id t ref e p) := by
  intro h
  rcases bind_eq_error.1 h with h | ⟨_, -, h⟩
  · obtain ⟨_, _, hf⟩ := Binding.validate_eq_error h
    cases hf
  · cases h

theorem shows_createBindingSteps (ctx : Context) (d : Binding.Draft) :
    (createBindingSteps ctx d).Shows fun es x => ∀ id t ref e p,
      x = .error (.bindingTaken id t ref e p) →
        ∃ now fresh, es = [.looked, .binding (d.binding now fresh) x] := by
  have hdraw : (looking (drawing d.binding Binding.validate)).Shows fun es x =>
      es = [.looked] ∧ ∃ now fresh,
        x = (do (d.binding now fresh).validate; .ok (d.binding now fresh)) :=
    Process.shows_atomically fun s => ⟨rfl, drawing_fst d.binding Binding.validate s⟩
  apply hdraw.bind
  · rintro es b ⟨rfl, now, fresh, hb⟩
    obtain ⟨_, -, hb⟩ := bind_eq_ok.1 hb.symm
    cases hb
    exact Process.shows_atomically fun s id t ref e p _ => ⟨now, fresh, rfl⟩
  · rintro es f ⟨-, now, fresh, hf⟩ id t ref e p htaken
    exact absurd (hf.symm.trans htaken) validated_ne_taken

theorem shows_updateBindingSteps (ctx : Context) (bid : String) (u : Binding.Update)
    (expected : Nat) :
    (updateBindingSteps ctx bid u expected).Shows fun es x => ∀ id t ref e p,
      x = .error (.bindingTaken id t ref e p) → ∃ current now, es =
        [.read (Text.trim bid) (.ok current), .looked, .binding (u.applyTo now current) x] := by
  have hread : (Process.atomically (reading expected fun s => s.getBinding ctx (Text.trim bid))
      (Event.read (Text.trim bid))).Shows fun es x => es = [.read (Text.trim bid) x] ∧
        ∃ s : Store, x = (do Version.requireExpected expected; s.getBinding ctx (Text.trim bid)) :=
    Process.shows_atomically fun s => ⟨rfl, s.2.store, reading_fst expected _ s⟩
  apply hread.bind
  · rintro es current ⟨rfl, -⟩
    have hchange : (looking (changing (u.applyTo · current) Binding.validate)).Shows fun es x =>
        es = [.looked] ∧ ∃ now,
          x = (do (u.applyTo now current).validate; .ok (u.applyTo now current)) :=
      Process.shows_atomically fun s => ⟨rfl, changing_fst (u.applyTo · current) _ s⟩
    apply hchange.bind
    · rintro es b ⟨rfl, now, hb⟩
      obtain ⟨_, -, hb⟩ := bind_eq_ok.1 hb.symm
      cases hb
      exact Process.shows_atomically fun s id t ref e p _ => ⟨current, now, rfl⟩
    · rintro es f ⟨-, now, hf⟩ id t ref e p htaken
      exact absurd (hf.symm.trans htaken) validated_ne_taken
  · rintro es f ⟨-, s, hf⟩ id t ref e p htaken
    cases htaken
    rcases bind_eq_error.1 hf.symm with hf | ⟨_, -, hf⟩
    · obtain ⟨_, _, hf⟩ := Version.requireExpected_eq_error hf
      cases hf
    · rcases Store.getBinding_eq_error hf with hf | hf <;> cases hf

def start (calls : List (Context × Command)) (supply : Supply) : World Event Runtime Answer :=
  ⟨calls.map fun c => process c.1 c.2, supply, .empty⟩

structure Refused (ms : List (Moment Event Runtime)) (i : Nat) (b : Binding) (id : String)
    (f : Fault) : Prop where
  named : ∃ m ∈ ms, m.call = i ∧ m.event = .binding b (.error f) ∧ ∃ other,
    m.before.store.Occupies other b ∧ other.id ≠ b.id ∧ other.id = id ∧ f = other.taken
  unchanged : ∀ m ∈ ms, m.call = i → m.after = m.before

theorem refused_of_events {r r' : Runtime} {ms : List (Moment Event Runtime)}
    (hrun : bindingContract.Allows r ms r') (hr : Exclusive r.store) {i : Nat} {b : Binding}
    {id t ref : String} {e : Option String} {p : Nat}
    (hmem : .binding b (.error (.bindingTaken id t ref e p)) ∈ eventsOf i ms)
    (hidle : ∀ event ∈ eventsOf i ms, event.Idle) :
    Refused ms i b id (.bindingTaken id t ref e p) := by
  constructor
  case named =>
    obtain ⟨m, hm, hi, hevent⟩ := mem_eventsOf.1 hmem
    obtain ⟨hbefore, -, hallowed⟩ := hrun.moment hr hm
    have hunique := Allowed.refused (hevent ▸ hallowed)
    obtain ⟨other, hoccupies, hne, htaken⟩ := Store.Exclusive.occupies hbefore hunique
    refine ⟨m, hm, hi, hevent, other, hoccupies, hne, ?_, htaken⟩
    cases htaken
    rfl
  case unchanged =>
    intro m hm hi
    exact (hrun.moment hr hm).2.2.idle (hidle _ (mem_eventsOf.2 ⟨m, hm, hi, rfl⟩))

/-- Active bindings have different places, and calls are refused only for the one in their way. -/
structure Separate (calls : List (Context × Command)) (ms : List (Moment Event Runtime))
    (w : World Event Runtime Answer) : Prop where
  exclusive : Exclusive w.state.store
  create : ∀ i ctx d id t ref e p, calls[i]? = some (ctx, .createBinding d) →
    w.calls[i]? = some (.done (.error (.bindingTaken id t ref e p))) →
    ∃ now fresh, Refused ms i (d.binding now fresh) id (.bindingTaken id t ref e p)
  update : ∀ i ctx bid u expected id t ref e p,
    calls[i]? = some (ctx, .updateBinding bid u expected) →
    w.calls[i]? = some (.done (.error (.bindingTaken id t ref e p))) →
    ∃ m ∈ ms, ∃ current now, m.call = i ∧
      m.before.store.bindings.get? (Text.trim bid) = some current ∧
      Refused ms i (u.applyTo now current) id (.bindingTaken id t ref e p)

theorem active_bindings_exclusive (calls : List (Context × Command)) (supply : Supply)
    (turns : List Turn) :
    Separate calls ((start calls supply).play turns).1 ((start calls supply).play turns).2 := by
  have hrun : bindingContract.Allows .empty ((start calls supply).play turns).1
      ((start calls supply).play turns).2.state := by
    apply World.play_allowed (start calls supply) turns Store.exclusive_empty
    intro p hp
    obtain ⟨c, -, rfl⟩ := List.mem_map.1 hp
    exact Process.Keeps.of_free (keeps_process c.1 c.2 _)
  constructor
  case exclusive => exact (hrun.keeps Store.exclusive_empty).1
  case create =>
    intro i ctx d id t ref e p hi hdone
    have hcall : (start calls supply).calls[i]? = some (process ctx (.createBinding d)) := by
      simp [start, hi]
    obtain ⟨x, hx, hanswer⟩ := World.play_shows (start calls supply) turns hcall
      ((shows_createBindingSteps ctx d).map Answer.binding) hdone
    cases error_of_map hanswer
    obtain ⟨now, fresh, hevents⟩ := hx id t ref e p rfl
    refine ⟨now, fresh, refused_of_events hrun Store.exclusive_empty ?_ ?_⟩
    · simp [hevents]
    · simp [hevents, Event.Idle]
  case update =>
    intro i ctx bid u expected id t ref e p hi hdone
    have hcall : (start calls supply).calls[i]? =
        some (process ctx (.updateBinding bid u expected)) := by
      simp [start, hi]
    obtain ⟨x, hx, hanswer⟩ := World.play_shows (start calls supply) turns hcall
      ((shows_updateBindingSteps ctx bid u expected).map Answer.binding) hdone
    cases error_of_map hanswer
    obtain ⟨current, now, hevents⟩ := hx id t ref e p rfl
    have hread : Event.read (Text.trim bid) (.ok current) ∈
        eventsOf i ((start calls supply).play turns).1 := by
      simp [hevents]
    obtain ⟨m, hm, hcalled, hevent⟩ := mem_eventsOf.1 hread
    have hallowed := (hrun.moment Store.exclusive_empty hm).2.2
    rw [hevent] at hallowed
    refine ⟨m, hm, current, now, hcalled, hallowed.stored,
      refused_of_events hrun Store.exclusive_empty ?_ ?_⟩
    · simp [hevents]
    · simp [hevents, Event.Idle]

end Runtime

end Backoffice.Workflow

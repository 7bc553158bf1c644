import Backoffice.Proofs.Workflow.Following
import Backoffice.Proofs.Workflow.Updates
import Backoffice.Proofs.Workflow.Written

/-!
What the engine holds after edits that interleave.

An edit writes the store in one step and tells the engine in a later one, and the engine keeps what
it was told last, whatever version that was. Main statement: once all edits are done the engine has
an active workflow as it was in the version of which it was told last, and so as it stands whenever
the engine was told of the versions in their order (`engine_told_last`). A late edit puts an earlier
version back (`engine_overtaken`).
-/

namespace Backoffice.Workflow.Runtime

open Store (Chronicled Kept)

def Command.Edits : Command → Prop
  | updateWorkflow _ _ _ | rollbackWorkflow _ _ _ => True
  | _ => False

def startFrom (r : Runtime) (calls : List (Context × Command)) (supply : Supply) :
    World Event Runtime Answer :=
  ⟨calls.map fun c => process c.1 c.2, supply, r⟩

def Soundly (e : Event) (r r' : Runtime) : Prop :=
  Allowed e r r' ∧ ∀ c w, e = .workflow c (.ok w) → w.Sound

theorem Soundly.keeps {e : Event} {r r' : Runtime} (hr : r.store.Sound ∧ Chronicled r.store)
    (h : Soundly e r r') :
    (r'.store.Sound ∧ Chronicled r'.store) ∧ Kept r.store r'.store :=
  Writing.keeps hr h

def soundContract : Contract Event Runtime :=
  { historyContract with
    Inv := fun r => r.store.Sound ∧ Chronicled r.store
    Guar := Soundly
    keeps := Soundly.keeps }

variable {α : Type}

theorem soundly_process (ctx : Context) (c : Command) (r : Runtime) :
    (process ctx c).Keeps soundContract r :=
  writing_process hereditary_sound ctx c r

structure Apart (m : Moment Event Runtime) : Prop where
  event : m.event ≠ .engine
  after : ∃ store, m.after = { m.before with store }

def Stores (m : Moment Event Runtime) (w : Workflow) : Prop := ∃ c, m.event = .workflow c (.ok w)

inductive Delivers : List (Moment Event Runtime) → Except Fault Workflow → Prop
  | failed {ms f} : (∀ m ∈ ms, Apart m ∧ ∀ w, ¬Stores m w) → Delivers ms (.error f)
  | stored {ms write push w supply} : (∀ m ∈ ms, Apart m ∧ ∀ w, ¬Stores m w) → Apart write →
      Stores write w → push.event = .engine →
      push.after = (follow w (supply, push.before)).2.2 →
      Delivers (ms ++ [write, push]) ((fun _ => w) <$> (follow w (supply, push.before)).1)

theorem Delivers.after {ms ms' : List (Moment Event Runtime)} {x : Except Fault Workflow}
    (h : Delivers ms' x) (hms : ∀ m ∈ ms, Apart m ∧ ∀ w, ¬Stores m w) :
    Delivers (ms ++ ms') x := by
  cases h with
  | failed haside =>
    refine .failed fun m hm => ?_
    rcases List.mem_append.1 hm with hm | hm
    · exact hms m hm
    · exact haside m hm
  | @stored aside write push w supply haside hwrite hstores hevent hpush =>
    rw [← List.append_assoc]
    refine .stored (fun m hm => ?_) hwrite hstores hevent hpush
    rcases List.mem_append.1 hm with hm | hm
    · exact hms m hm
    · exact haside m hm

variable {i : Nat}

theorem delivers_looking {c : Call Runtime α} (hc : c.Quiet)
    {f : α → Process Event Runtime Workflow} (hf : ∀ a, (f a).Does i Delivers) :
    (looking c >>= f).Does i Delivers := by
  have hlook : (looking c).Does i fun ms _ => ∀ m ∈ ms, Apart m ∧ ∀ w, ¬Stores m w := by
    refine Process.does_atomically fun s m hm => ?_
    rw [List.mem_singleton.1 hm]
    refine ⟨⟨Event.noConfusion, s.2.store, hc s⟩, ?_⟩
    rintro w ⟨c, hstores⟩
    cases hstores
  refine hlook.bind (fun ms a hms => (hf a).imp fun ms' x h => h.after hms) fun ms e hms => ?_
  exact .failed hms

theorem delivers_updateWorkflowSteps (ctx : Context) (id : String) (u : Update) (expected : Nat) :
    (updateWorkflowSteps ctx id u expected).Does i Delivers := by
  refine delivers_looking (quiet_reading _ _) fun row => ?_
  refine delivers_looking (quiet_changing _ _) fun w => ?_
  have hwrite : (Process.atomically (onStore fun s => s.replaceWorkflow ctx w expected)
      (Event.workflow w)).Does i fun ms x => ∃ m, ms = [m] ∧ Apart m ∧ m.event = .workflow w x := by
    refine Process.does_atomically fun ⟨supply, r⟩ => ⟨_, rfl, ⟨Event.noConfusion, ?_⟩, rfl⟩
    dsimp only
    rw [onStore_apply]
    cases r.store.replaceWorkflow ctx w expected with
    | error f => exact ⟨r.store, rfl⟩
    | ok x => exact ⟨x.2, rfl⟩
  refine hwrite.bind ?_ ?_
  · rintro _ v ⟨write, rfl, hwrite, hevent⟩
    have htell : (Process.atomically (follow v) fun _ => Event.engine).Does i fun ms x =>
        ∃ m supply, ms = [m] ∧ m.event = .engine ∧ m.after = (follow v (supply, m.before)).2.2 ∧
          x = (follow v (supply, m.before)).1 :=
      Process.does_atomically fun s => ⟨_, s.1, rfl, rfl, rfl, rfl⟩
    have hstored : ∀ {push : Moment Event Runtime} {supply : Supply}, push.event = .engine →
        push.after = (follow v (supply, push.before)).2.2 →
        Delivers [write, push] ((fun _ => v) <$> (follow v (supply, push.before)).1) :=
      fun hevent' hafter =>
        @Delivers.stored [] _ _ _ _ (by simp) hwrite ⟨w, hevent⟩ hevent' hafter
    refine htell.bind ?_ ?_
    · rintro _ _ ⟨push, supply, rfl, hpush, hafter, hok⟩
      have hdelivers := hstored hpush hafter
      rw [← hok] at hdelivers
      exact hdelivers
    · rintro _ f ⟨push, supply, rfl, hpush, hafter, herror⟩
      have hdelivers := hstored hpush hafter
      rw [← herror] at hdelivers
      exact hdelivers
  · rintro _ f ⟨write, rfl, hwrite, hevent⟩
    refine .failed fun m hm => ?_
    rw [List.mem_singleton.1 hm]
    refine ⟨hwrite, ?_⟩
    rintro v ⟨c, hstores⟩
    cases hevent.symm.trans hstores

theorem delivers_process (ctx : Context) {c : Command} (hc : c.Edits) :
    (process ctx c).Does i fun ms r => ∃ x, Delivers ms x ∧ r = Answer.workflow <$> x := by
  cases c with
  | updateWorkflow id u expected =>
    exact (delivers_updateWorkflowSteps ctx id u expected).map Answer.workflow
  | rollbackWorkflow id target expected =>
    apply Process.Does.map
    refine delivers_looking (quiet_reading _ _) fun _ => ?_
    exact delivers_looking (Call.quiet_asks _) fun revision =>
      delivers_updateWorkflowSteps ctx _ _ expected
  | createWorkflow | createBinding | updateBinding | deleteBinding | bindEngine => exact hc.elim

def answered (w : World Event Runtime Answer) (i : Nat) : Option Workflow :=
  match w.calls[i]? with
  | some (.done (.ok (.workflow v))) => some v
  | _ => none

def handedAt (w : World Event Runtime Answer) (m : Moment Event Runtime) : Option Workflow :=
  match m.event with
  | .engine => answered w m.call
  | _ => none

/-- The active workflows of which the engine was told under an id, in order. -/
def handed (w : World Event Runtime Answer) (ms : List (Moment Event Runtime)) (id : String) :
    List Workflow :=
  ((ms.filterMap (handedAt w)).filter (·.isActive)).filter (·.id == id)

theorem handedAt_of_ne (w : World Event Runtime Answer) {m : Moment Event Runtime}
    (h : m.event ≠ .engine) : handedAt w m = none := by
  unfold handedAt
  split
  · rename_i hevent
    exact absurd hevent h
  · rfl

inductive Hands (w : World Event Runtime Answer) (ms : List (Moment Event Runtime))
    (m : Moment Event Runtime) : Prop
  | apart : Apart m → (∀ v, Stores m v → ∃ push ∈ ms, handedAt w push = some v) → Hands w ms m
  | told {v : Workflow} : handedAt w m = some v → m.after = m.before.told v →
      (∃ write ∈ ms, Stores write v) → Hands w ms m

theorem Delivers.hands {w : World Event Runtime Answer} {ms own : List (Moment Event Runtime)}
    {x : Except Fault Workflow} (h : Delivers own x) (hcall : ∀ m ∈ own, m ∈ ms ∧ m.call = i)
    (hanswer : w.calls[i]? = some (.done (Answer.workflow <$> x)))
    (hsound : ∀ m ∈ ms, ∀ v, Stores m v → v.Sound) : ∀ m ∈ own, Hands w ms m := by
  cases h with
  | failed haside =>
    exact fun m hm => .apart (haside m hm).1 fun v hv => absurd hv ((haside m hm).2 v)
  | @stored aside write push v supply haside hwrite hstores hevent hpush =>
    have hw : write ∈ ms := (hcall write (by simp)).1
    obtain ⟨hp, hi⟩ := hcall push (by simp)
    have hfollow := follow_apply (hsound write hw v hstores) supply push.before
    rw [hfollow] at hpush hanswer
    have hhanded : handedAt w push = some v := by
      rw [handedAt, hevent, hi]
      dsimp only
      rw [answered, hanswer]
      rfl
    intro m hm
    simp only [List.mem_append, List.mem_cons, List.not_mem_nil, or_false] at hm
    rcases hm with hm | rfl | rfl
    · exact .apart (haside m hm).1 fun u hu => absurd hu ((haside m hm).2 u)
    · refine .apart hwrite fun u hu => ⟨push, hp, ?_⟩
      obtain ⟨c, hc⟩ := hstores
      obtain ⟨c', hc'⟩ := hu
      cases hc.symm.trans hc'
      exact hhanded
    · exact .told hhanded hpush ⟨write, hw, hstores⟩

theorem hands_of_finished {r : Runtime} {calls : List (Context × Command)}
    (hcalls : ∀ c ∈ calls, c.2.Edits) {supply : Supply} {turns : List Turn}
    (hsound : ∀ m ∈ ((startFrom r calls supply).play turns).1, ∀ v, Stores m v → v.Sound)
    (hdone : ((startFrom r calls supply).play turns).2.finished = true) :
    let ms := ((startFrom r calls supply).play turns).1
    ∀ m ∈ ms, Hands ((startFrom r calls supply).play turns).2 ms m := by
  intro ms m hm
  obtain ⟨p, x, hp, hx, hdoes⟩ := World.play_does_of_mem _ turns hdone hm
  rw [startFrom, List.getElem?_map] at hp
  obtain ⟨c, hc, rfl⟩ := Option.map_eq_some_iff.1 hp
  obtain ⟨y, hy, rfl⟩ := hdoes _ (delivers_process c.1 (hcalls c (List.mem_of_getElem? hc)))
  refine hy.hands (fun m' hm' => ?_) hx hsound m (List.mem_filter.2 ⟨hm, beq_self_eq_true _⟩)
  rw [List.mem_filter, beq_iff_eq] at hm'
  exact hm'

variable {r r' : Runtime} {ms : List (Moment Event Runtime)} {w : World Event Runtime Answer}

theorem engine_of_hands {all : List (Moment Event Runtime)} (hrun : soundContract.Allows r ms r')
    (hbound : r.bound = true) (hms : ∀ m ∈ ms, Hands w all m) :
    r'.engine = ((ms.filterMap (handedAt w)).filter (·.isActive)).foldl Engine.put r.engine := by
  induction ms generalizing r with
  | nil =>
    cases hrun
    rfl
  | cons m ms ih =>
    obtain ⟨rfl, -, hrest⟩ := hrun
    have hms' : ∀ m ∈ ms, Hands w all m := fun m' hm' => hms m' (List.mem_cons_of_mem m hm')
    cases hms m List.mem_cons_self with
    | apart hapart =>
      obtain ⟨store, hafter⟩ := hapart.after
      rw [List.filterMap_cons_none (handedAt_of_ne w hapart.event),
        ih hrest (by rw [hafter]; exact hbound) hms', hafter]
    | @told v hhanded hafter =>
      have hbound' : (m.before.told v).bound = true := by
        unfold told
        split <;> exact hbound
      rw [List.filterMap_cons_some hhanded, ih hrest (hafter ▸ hbound') hms', hafter, told, hbound,
        Bool.and_true]
      by_cases hactive : v.isActive
      · rw [if_pos hactive, List.filter_cons_of_pos hactive, List.foldl_cons]
      · rw [if_neg hactive, List.filter_cons_of_neg hactive]

theorem Allowed.row {e : Event} (h : Allowed e r r') (id : String) :
    (∃ c u, e = .workflow c (.ok u) ∧ u.id = id ∧ r'.store.workflows.get? id = some u) ∨
      ((∀ c u, e = .workflow c (.ok u) → u.id ≠ id) ∧
        r'.store.workflows.get? id = r.store.workflows.get? id) := by
  have hwrite : ∀ c u : Workflow,
      (∃ c' u', Event.workflow c (.ok u) = .workflow c' (.ok u') ∧ u'.id = id ∧
          (r.store.write u).workflows.get? id = some u') ∨
        ((∀ c' u', Event.workflow c (.ok u) = .workflow c' (.ok u') → u'.id ≠ id) ∧
          (r.store.write u).workflows.get? id = r.store.workflows.get? id) := by
    intro c u
    rw [Store.get?_write]
    by_cases hid : id = u.id
    · exact .inl ⟨c, u, rfl, hid.symm, if_pos hid⟩
    · refine .inr ⟨fun c' u' h => ?_, if_neg hid⟩
      cases h
      exact Ne.symm hid
  cases h with
  | workflowInserted | workflowReplaced => exact hwrite _ _
  | looked | read | workflowRefused | bindingRefused | bindingWritten | notRemoved | removed =>
    exact .inr ⟨fun _ _ h => (by cases h), rfl⟩
  | engine hstore => exact .inr ⟨fun _ _ h => (by cases h), by rw [hstore]⟩

theorem last_written (hrun : soundContract.Allows r ms r') {id : String} {v : Workflow}
    (hv : r'.store.workflows.get? id = some v) :
    (∃ m ∈ ms, Stores m v) ∨
      r.store.workflows.get? id = some v ∧ ∀ m ∈ ms, ∀ u, Stores m u → u.id ≠ id := by
  induction ms generalizing r with
  | nil =>
    cases hrun
    exact .inr ⟨hv, by simp⟩
  | cons m ms ih =>
    obtain ⟨rfl, hguar, hrest⟩ := hrun
    rcases ih hrest with ⟨m', hm', hstores⟩ | ⟨hrow, hnone⟩
    · exact .inl ⟨m', List.mem_cons_of_mem m hm', hstores⟩
    · rcases hguar.1.row id with ⟨c, u, hevent, -, hu⟩ | ⟨hother, hsame⟩
      · cases hrow.symm.trans hu
        exact .inl ⟨m, List.mem_cons_self, c, hevent⟩
      · refine .inr ⟨hsame ▸ hrow, fun m' hm' u hu => ?_⟩
        rcases List.mem_cons.1 hm' with rfl | hm'
        · obtain ⟨c, hc⟩ := hu
          exact hother c u hc
        · exact hnone m' hm' u hu

theorem revision_of_stores (hrun : soundContract.Allows r ms r') (hr : soundContract.Inv r)
    {m : Moment Event Runtime} (hm : m ∈ ms) {v : Workflow} (hstores : Stores m v) :
    v.revision ∈ r'.store.history v.id := by
  obtain ⟨earlier, later, rfl⟩ := List.append_of_mem hm
  obtain ⟨t, hearlier, hbefore, hguar, hlater⟩ := hrun.append
  have hinv := (hearlier.keeps hr).1
  have hkept : Kept m.after.store r'.store := (hlater.keeps (soundContract.keeps hinv hguar).1).2
  have hadded : ∀ s : Store, v.revision ∈ (s.write v).history v.id := by
    intro s
    rw [Store.history_write, if_pos rfl]
    exact Revision.mem_enter_self _ _
  refine (hkept v.id).subset ?_
  obtain ⟨c, hevent⟩ := hstores
  have hallowed := hguar.1
  rw [hevent] at hallowed
  cases hafter : m.after with
  | mk store engine bound =>
    rw [hafter] at hallowed
    cases hallowed with
    | workflowInserted | workflowReplaced => exact hadded _

theorem stores_of_handed (hms : ∀ m ∈ ms, Hands w ms m) {id : String} {u : Workflow}
    (hu : u ∈ handed w ms id) : u.id = id ∧ ∃ write ∈ ms, Stores write u := by
  rw [handed, List.mem_filter, List.mem_filter, List.mem_filterMap, beq_iff_eq] at hu
  obtain ⟨⟨⟨m, hm, hhanded⟩, -⟩, hid⟩ := hu
  cases hms m hm with
  | apart hapart =>
    rw [handedAt_of_ne w hapart.event] at hhanded
    cases hhanded
  | told htold _ hwrite =>
    cases htold.symm.trans hhanded
    exact ⟨hid, hwrite⟩

theorem mem_handed (hms : ∀ m ∈ ms, Hands w ms m) {m : Moment Event Runtime} (hm : m ∈ ms)
    {v : Workflow} (hstores : Stores m v) (hactive : v.isActive) : v ∈ handed w ms v.id := by
  cases hms m hm with
  | apart _ hpush =>
    obtain ⟨push, hp, hhanded⟩ := hpush v hstores
    refine List.mem_filter.2 ⟨List.mem_filter.2 ⟨?_, hactive⟩, beq_self_eq_true _⟩
    exact List.mem_filterMap.2 ⟨push, hp, hhanded⟩
  | told hhanded =>
    obtain ⟨c, hevent⟩ := hstores
    rw [handedAt, hevent] at hhanded
    cases hhanded

theorem version_le_last {vs : List Workflow} (hvs : vs.Pairwise (·.version ≤ ·.version))
    {u v : Workflow} (hlast : vs.getLast? = some u) (hv : v ∈ vs) : v.version ≤ u.version := by
  obtain ⟨earlier, rfl⟩ := List.getLast?_eq_some_iff.1 hlast
  rcases List.mem_append.1 hv with hv | hv
  · exact (List.pairwise_append.1 hvs).2.2 v hv u (List.mem_singleton_self u)
  · rw [List.mem_singleton.1 hv]

theorem engine_told_last (past later : List (Supply × Context × Command)) (e : Engine)
    (supply : Supply) (ctx : Context) (hctx : ctx.ensureActive = .ok ())
    (calls : List (Context × Command)) (hcalls : ∀ c ∈ calls, c.2.Edits) (supply' : Supply)
    (turns : List Turn) :
    let r := following past e ctx supply later
    let ms := ((startFrom r calls supply').play turns).1
    let w := ((startFrom r calls supply').play turns).2
    w.finished = true → ∀ id v, w.state.store.workflows.get? id = some v → v.isActive →
      w.state.engine.definition? id = some (((handed w ms id).getLast?.getD v).definition) ∧
        (∀ u ∈ handed w ms id, u.revision ∈ w.state.store.history id) ∧
        ((handed w ms id).Pairwise (·.version ≤ ·.version) →
          w.state.engine.definition? id = some v.definition) := by
  intro r ms w hdone id v hv hactive
  have hfollows : Follows (empty.after past).store e r := follows_following past e hctx supply later
  have hstart : soundContract.Inv r := ⟨hfollows.sound, hfollows.chronicled⟩
  have hrun : soundContract.Allows r ms w.state := by
    apply World.play_allowed (startFrom r calls supply') turns hstart
    intro p hp
    obtain ⟨c, -, rfl⟩ := List.mem_map.1 hp
    exact soundly_process c.1 c.2 r
  have hsound : ∀ m ∈ ms, ∀ u, Stores m u → u.Sound := by
    rintro m hm u ⟨c, hevent⟩
    exact (hrun.moment hstart hm).2.2.2 c u hevent
  have hms : ∀ m ∈ ms, Hands w ms m := hands_of_finished hcalls hsound hdone
  have hend := (hrun.keeps hstart).1
  obtain ⟨rfl, hrec⟩ := hend.2.recorded hv
  have hget : w.state.engine.definition? v.id =
      ((handed w ms v.id).getLast?.map (·.definition)).or (r.engine.definition? v.id) := by
    rw [Engine.definition?, Engine.definition?, (hend.1 _ v hv).key,
      engine_of_hands hrun hfollows.bound hms, Engine.get?_foldl_put]
    rfl
  have hhistory : ∀ u ∈ handed w ms v.id, u.revision ∈ w.state.store.history v.id := by
    intro u hu
    obtain ⟨hid, write, hwrite, hstores⟩ := stores_of_handed hms hu
    exact hid ▸ revision_of_stores hrun hstart hwrite hstores
  -- the row is the last that was written there, or the one the engine had been told of
  rcases last_written hrun hv with ⟨m, hm, hstores⟩ | ⟨hrow, hnone⟩
  · have hmem : v ∈ handed w ms v.id := mem_handed hms hm hstores hactive
    have hlast := List.getLast?_eq_some_getLast (List.ne_nil_of_mem hmem)
    generalize (handed w ms v.id).getLast _ = u at hlast
    rw [hlast] at hget ⊢
    refine ⟨hget, hhistory, fun horder => hget.trans (congrArg some ?_)⟩
    have hu := hhistory u (List.mem_of_getLast? hlast)
    have hversion : u.version = v.version :=
      le_antisymm (hrec.mem_version hu).2 (version_le_last horder hlast hmem)
    exact congrArg Revision.definition (hrec.eq_revision hu hversion)
  · have hnil : handed w ms v.id = [] := by
      rw [List.eq_nil_iff_forall_not_mem]
      intro u hu
      obtain ⟨hid, write, hwrite, hstores⟩ := stores_of_handed hms hu
      exact hnone write hwrite u hstores hid
    have hheld : r.engine.definition? v.id = some v.definition := hfollows.active hrow hactive
    rw [hnil, hheld] at hget
    rw [hnil]
    exact ⟨hget, by simp, fun _ => hget⟩

def publishTo (target : String) (expected : Nat) : Context × Command :=
  (.empty, .updateWorkflow "review"
    { Update.none with definition := some ⟨"draft", [⟨"publish", "draft", target, ""⟩]⟩ } expected)

def contested : World Event Runtime Answer :=
  startFrom (following bindReview .empty .empty ⟨⟨0, 0⟩, 0⟩ [])
    [publishTo "second" 1, publishTo "third" 2] ⟨⟨0, 0⟩, 0⟩

def inOrder : List Turn :=
  [.call 0, .call 0, .call 0, .call 1, .call 1, .call 1, .call 0, .call 1]

theorem engine_told_last_inOrder :
    let w := (contested.play inOrder).2
    ∃ v, w.state.store.workflows.get? "review" = some v ∧ v.version = 3 ∧
      w.state.engine.definition? "review" = some v.definition := by
  intro w
  have hdone : w.finished = true := by decide +kernel
  have hstored : (w.state.store.workflows.get? "review").map (fun v => (v.version, v.isActive)) =
      some (3, true) := by decide +kernel
  have horder : (handed w (contested.play inOrder).1 "review").Pairwise
      (·.version ≤ ·.version) := by decide +kernel
  obtain ⟨v, hv, hfacts⟩ := Option.map_eq_some_iff.1 hstored
  obtain ⟨hversion, hactive⟩ := Prod.mk.inj hfacts
  have hcalls : ∀ c ∈ [publishTo "second" 1, publishTo "third" 2], c.2.Edits := by
    simp [publishTo, Command.Edits]
  have htold := engine_told_last bindReview [] .empty ⟨⟨0, 0⟩, 0⟩ .empty rfl
    [publishTo "second" 1, publishTo "third" 2] hcalls ⟨⟨0, 0⟩, 0⟩ inOrder hdone "review" v hv
    hactive
  exact ⟨v, hv, hversion, htold.2.2 horder⟩

def overtaken : List Turn :=
  [.call 0, .call 0, .call 0, .call 1, .call 1, .call 1, .call 1, .call 0]

/-- Both edits are done, and the engine has the version before the stored one. -/
theorem engine_overtaken :
    let w := (contested.play overtaken).2
    w.finished = true ∧
      (w.state.store.workflows.get? "review").map (fun v => (v.version, v.isActive, v.definition)) =
        some (3, true, ⟨"draft", [⟨"publish", "draft", "third", ""⟩]⟩) ∧
      w.state.engine.definition? "review" =
        some ⟨"draft", [⟨"publish", "draft", "second", ""⟩]⟩ := by
  decide +kernel

end Backoffice.Workflow.Runtime

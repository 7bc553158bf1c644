import Backoffice.Proofs.Interleaving
import Backoffice.Proofs.Panel.Transitions
import Backoffice.Proofs.Repository.Growth

/-!
Transitions of one record side by side.

A transition reads the record, asks the engine where the transition leads, and writes the state,
each in a step of its own; records have no versions, so that others may write in between. Main
statement: in every interleaving the state changes only where a transition writes, every write goes
to where the definition leads from the state that was read, and a transition that succeeds writes
once (`moves_respect`). A write that was overtaken may replace a state from which nothing leads there
(`archived_after_publishing`).
-/

namespace Backoffice

def Workflow.Engine.Leads (e : Engine) (entityType state target : String) : Prop :=
  ∃ d, e.definition? entityType = some d ∧
    ∃ t ∈ d.transitions, t.source = d.stateOf state ∧ t.target = target

theorem Workflow.Engine.leads_of_fire {e : Engine} {ctx : Context} {req : TransitionRequest}
    {origin target : String} (h : e.fire ctx req = .ok (origin, target)) :
    e.Leads req.entityType req.currentState target := by
  obtain ⟨_, -, h⟩ := bind_eq_ok.1 h
  obtain ⟨d, hd, h⟩ := bind_eq_ok.1 h
  dsimp only at h
  split at h
  · rename_i t hfind
    cases h
    have hleaving := List.mem_filter.1 (List.mem_of_find?_eq_some hfind)
    refine ⟨d, ?_, t, hleaving.1, beq_iff_eq.1 hleaving.2, rfl⟩
    unfold require at hd
    split at hd
    · cases hd
      assumption
    · cases hd
  · cases h

theorem Repository.update_eq_ok {r r' : Repository} {ctx : Context} {id : String}
    {patch updated : Record} (h : r.update ctx id patch = .ok (updated, r')) :
    (∃ stored : Record, updated = stored.merge (patch.filter fun e => e.1 != "id")) ∧
      r'.records.get? id = some updated := by
  obtain ⟨stored, -, h⟩ := bind_eq_ok.1 h
  cases h
  exact ⟨⟨stored, rfl⟩, Dict.get?_set_self ..⟩

namespace Panel

open Call (Ensures ensures_asks ensures_atomic ensures_change ensures_ofExcept ensures_pure
  ensures_state ensures_throw)

variable {ctx : Context} {id : String} {source : Source}

theorem ensures_partition_records (c : ContentType) (s : ContentRecords) :
    (ContentRecords.partition c).Ensures s fun r t => s.Same t ∧
      ∃ repository, r = .ok repository ∧ repository.records = s.recordsOf c.id := by
  have hrecords : (ContentRecords.partition c).Ensures s fun r _ =>
      ∃ repository, r = .ok repository ∧ repository.records = s.recordsOf c.id := by
    refine Ensures.seq (ensures_state ?_)
    dsimp only
    cases hr : s.partitions.get? c.id with
    | none => exact fun supply => ⟨_, rfl, by simp [ContentRecords.recordsOf, hr, Repository.new]⟩
    | some r => exact ensures_pure ⟨r, rfl, by simp [ContentRecords.recordsOf, hr]⟩
  exact fun supply => ⟨ContentRecords.leaves_partition c s supply, hrecords supply⟩

namespace Source

def record? (source : Source) (s : Services) (id : String) : Option Record :=
  match source with
  | .table handle => (s.table handle).records.get? id
  | .content c => (s.content.recordsOf c.id).get? id

theorem ensures_read (source : Source) (ctx : Context) (id : String) (s : Services) :
    (source.get ctx id).Ensures s fun r t => t.runtime = s.runtime ∧
      source.record? t id = source.record? s id ∧
      ∀ record, r = .ok record → source.record? s id = some record := by
  cases source with
  | table handle =>
    refine ensures_asks (fun a ha => ⟨rfl, rfl, ?_⟩) fun e _ => ⟨rfl, rfl, by simp⟩
    rintro _ ⟨⟩
    exact Repository.get_eq_ok ha
  | content c =>
    unfold Source.get Services.onContent ContentRecords.get
    refine Ensures.within ((ensures_partition_records c s.content).bind ?_ ?_)
    · rintro repository t ⟨hsame, _, ⟨⟩, hrecords⟩
      have hsame' : (t.recordsOf c.id).get? id = (s.content.recordsOf c.id).get? id := by
        rw [hsame.records]
      refine ensures_ofExcept (fun a ha => ⟨rfl, hsame', ?_⟩)
        fun e _ => ⟨rfl, hsame', by simp⟩
      rintro _ ⟨⟩
      have hget := Repository.get_eq_ok ha
      rwa [hrecords] at hget
    · rintro e t ⟨-, _, ⟨⟩, -⟩

structure Writes (source : Source) (id : String) (patch : Record) (s t : Services)
    (r : Except Fault Record) : Prop where
  runtime : t.runtime = s.runtime
  stored : ∀ updated, r = .ok updated → source.record? t id = some updated ∧
    ∃ stored : Record, updated = stored.merge (patch.filter fun e => e.1 != "id")
  failed : ∀ e, r = .error e → source.record? t id = source.record? s id

theorem ensures_writes (source : Source) (ctx : Context) (id : String) (patch : Record)
    (s : Services) : (source.update ctx id patch).Ensures s fun r t =>
      source.Writes id patch s t r := by
  cases source with
  | table handle =>
    refine ensures_atomic (fun updated t h => ?_) fun e _ => ⟨rfl, by simp, by simp⟩
    obtain ⟨⟨updated', r⟩, hupdate, h⟩ := bind_eq_ok.1 h
    cases h
    obtain ⟨hmerged, hstored⟩ := Repository.update_eq_ok hupdate
    refine ⟨rfl, ?_, by simp⟩
    rintro _ ⟨⟩
    refine ⟨?_, hmerged⟩
    simp [record?, Services.table, hstored]
  | content c =>
    unfold Source.update Services.onContent ContentRecords.update ContentRecords.writing
    refine Ensures.within (Ensures.seq (ensures_state ?_))
    have hrefused : ∀ e t, s.content.Same t → (Source.content c).Writes id patch s
        { s with content := t } (.error e) := fun e t hsame =>
      ⟨rfl, by simp, fun _ _ => congrArg (·.get? id) (hsame.records c.id)⟩
    dsimp only
    split
    · exact Ensures.seq (ensures_throw (hrefused _ _ (.refl _)))
    · refine Ensures.bind (ensures_partition_records c s.content) ?_
        fun e t ht => hrefused e t ht.1
      rintro repository t ⟨hsame, _, ⟨⟩, -⟩
      refine Ensures.seq (ensures_ofExcept (fun written hupdate => ?_)
        fun e _ => hrefused e t hsame)
      obtain ⟨updated, r⟩ := written
      obtain ⟨hmerged, hstored⟩ := Repository.update_eq_ok hupdate
      refine Ensures.seq (ensures_change (ensures_pure ⟨rfl, ?_, by simp⟩))
      rintro _ ⟨⟩
      refine ⟨?_, hmerged⟩
      simp [record?, ContentRecords.recordsOf, hstored]

end Source

inductive Event where
  | aside
  | read (r : Except Fault Record)
  | asked (r : Except Fault (String × String))
  | wrote (r : Except Fault Record)

def Event.writes : Event → Bool
  | .wrote (.ok _) => true
  | _ => false

section Steps

variable {α : Type} (p : Panel) (ctx : Context) (id : String)

def aside (c : Call Services α) : Process Event Services α :=
  .atomically c fun _ => .aside

def writeSteps (patch : Record) : Process Event Services Record := do
  let patch ← aside (p.hooks.beforeUpdate ctx id patch)
  let updated ← .atomically (p.source.update ctx id patch) .wrote
  aside (p.hooks.afterUpdate ctx updated)
  pure updated

def policySteps (transition : String) (metadata : Record) : Process Event Services Unit :=
  if p.policed then
    aside (Services.onEnforcer (Workflow.Enforcer.check
      ⟨p.name, id, transition, ctx.environment, ctx.locale, metadata⟩))
  else pure ()

def request (l : Lifecycle) (record : Record) (transition : String) (metadata : Record) :
    Workflow.TransitionRequest :=
  ⟨id, l.workflowId, stateOf l record, transition, ctx.userId, metadata⟩

def transitionSteps (transition : String) (metadata : Record) : Process Event Services Record :=
  match p.lifecycle with
  | none => .done (.error (.unsupported p.name "workflow transition"))
  | some l => do
    let record ← .atomically (p.source.get ctx id) .read
    p.policySteps ctx id (Text.key transition) metadata
    let (_, target) ← .atomically (Call.asks fun s : Services =>
      s.runtime.engine.fire ctx (request ctx id l record (Text.key transition) metadata)) .asked
    p.writeSteps ctx id [(l.stateField, .str target)]

@[simp] theorem run_aside (c : Call Services α) : (aside c).run = c := rfl

theorem run_writeSteps (patch : Record) :
    (p.writeSteps ctx id patch).run = p.write ctx id patch := by
  simp only [writeSteps, write, Process.run_bind, run_aside, Process.run_atomically,
    Process.run_pure]

theorem run_transitionSteps (transition : String) (metadata : Record) :
    (p.transitionSteps ctx id transition metadata).run =
      p.transitionRecord ctx id transition metadata := by
  unfold transitionSteps transitionRecord policySteps
  cases p.lifecycle with
  | none => rfl
  | some l =>
    cases p.policed with
    | true =>
      simp only [if_true, Process.run_bind, Process.run_atomically, run_aside, run_writeSteps]
      rfl
    | false =>
      simp only [Bool.false_eq_true, if_false, Process.run_bind, Process.run_atomically,
        run_writeSteps, pure_bind]
      rfl

end Steps

structure Spared (source : Source) (id : String) (s t : Services) : Prop where
  engine : t.runtime.engine = s.runtime.engine
  record : source.record? t id = source.record? s id

/-- The hooks around an update leave the record and the engine alone, and the first one what is to be
written to a field. -/
structure Hooks.Spare (h : Hooks) (source : Source) (id field : String) : Prop where
  before : ∀ ctx patch s, (h.beforeUpdate ctx id patch).Ensures s fun r t => Spared source id s t ∧
    ∀ patch', r = .ok patch' → patch'.filter (·.1 == field) = patch.filter (·.1 == field)
  after : ∀ ctx updated s, (h.afterUpdate ctx updated).Leaves s (Spared source id s)

theorem Hooks.spare_none (source : Source) (id field : String) : Hooks.none.Spare source id field where
  before _ _ _ := ensures_pure ⟨⟨rfl, rfl⟩, by rintro _ ⟨⟩; rfl⟩
  after _ _ _ := ensures_pure ⟨rfl, rfl⟩

structure Allowed (source : Source) (id : String) (e : Event) (s t : Services) : Prop where
  engine : t.runtime.engine = s.runtime.engine
  read : ∀ record, e = .read (.ok record) → source.record? s id = some record
  wrote : ∀ record, e = .wrote (.ok record) → source.record? t id = some record
  still : e.writes = false → source.record? t id = source.record? s id

def moveContract (source : Source) (id : String) : Contract Event Services where
  Inv _ := True
  Rely s t := t.runtime.engine = s.runtime.engine
  Guar := Allowed source id
  refl _ := rfl
  trans hst htu := htu.trans hst
  keeps _ h := ⟨trivial, h.engine⟩

theorem keeps_aside {α : Type} {c : Call Services α}
    (hc : ∀ s, c.Leaves s (Spared source id s)) (s : Services) :
    (aside c).Keeps (moveContract source id) s :=
  Process.meets_atomically fun supply t _ _ =>
    ⟨⟨(hc t supply).engine, by simp, by simp, fun _ => (hc t supply).record⟩, trivial⟩

theorem keeps_policySteps (p : Panel) (ctx : Context) (id transition : String) (metadata : Record)
    (s : Services) :
    (p.policySteps ctx id transition metadata).Keeps (moveContract p.source id) s := by
  unfold policySteps
  split
  · refine keeps_aside (fun s _ => ⟨rfl, ?_⟩) s
    cases p.source <;> rfl
  · trivial

variable {p : Panel} {field : String}

theorem keeps_writeSteps (hspare : p.hooks.Spare p.source id field) (ctx : Context) (patch : Record)
    (s : Services) : (p.writeSteps ctx id patch).Keeps (moveContract p.source id) s := by
  have hbefore := fun s => (hspare.before ctx patch s).imp fun _ _ h => h.1
  refine Process.Keeps.bind (keeps_aside hbefore s) fun patch t => ?_
  refine Process.Keeps.bind (Process.meets_atomically fun supply t _ _ => ⟨?_, trivial⟩)
    fun updated t => Process.Keeps.bind (keeps_aside (hspare.after ctx updated) t) fun _ _ => trivial
  have hwrites := p.source.ensures_writes ctx id patch t supply
  generalize p.source.update ctx id patch (supply, t) = outcome at hwrites ⊢
  obtain ⟨r, _, u⟩ := outcome
  refine ⟨congrArg (·.engine) hwrites.runtime, by simp, ?_, ?_⟩
  · intro record hr
    cases hr
    exact (hwrites.stored record rfl).1
  · intro hfails
    cases r with
    | ok updated => cases hfails
    | error e => exact hwrites.failed e rfl

theorem keeps_transitionSteps (hspare : p.hooks.Spare p.source id field) (ctx : Context)
    (transition : String) (metadata : Record) (s : Services) :
    (p.transitionSteps ctx id transition metadata).Keeps (moveContract p.source id) s := by
  unfold transitionSteps
  split
  · trivial
  · refine Process.Keeps.bind (Process.meets_atomically fun supply t _ _ => ⟨?_, trivial⟩) ?_
    · obtain ⟨hruntime, hsame, hread⟩ := p.source.ensures_read ctx id t supply
      refine ⟨congrArg (·.engine) hruntime, fun record hr => ?_, by simp, fun _ => hsame⟩
      exact hread record (Event.read.inj hr)
    · intro record t
      refine Process.Keeps.bind (keeps_policySteps p ctx id _ metadata t) fun _ t => ?_
      refine Process.Keeps.bind (Process.meets_atomically fun supply t _ _ => ⟨?_, trivial⟩)
        fun fired t => keeps_writeSteps hspare ctx _ t
      rw [Call.asks_apply]
      exact ⟨rfl, by simp, by simp, fun _ => rfl⟩

def Unwritten (ms : List (Moment Event Services)) : Prop := ∀ m ∈ ms, m.event.writes = false

theorem unwritten_nil : Unwritten [] := by simp [Unwritten]

theorem unwritten_cons {m : Moment Event Services} {ms : List (Moment Event Services)} :
    Unwritten (m :: ms) ↔ m.event.writes = false ∧ Unwritten ms := List.forall_mem_cons

theorem unwritten_append {ms ms' : List (Moment Event Services)} :
    Unwritten (ms ++ ms') ↔ Unwritten ms ∧ Unwritten ms' := List.forall_mem_append

inductive Asked (l : Lifecycle) : List (Moment Event Services) → Record → String → Prop
  | intro {read ask before record req ctx origin target} : read.event = .read (.ok record) →
      Unwritten before → ask ∈ before → req.entityType = l.workflowId →
      req.currentState = stateOf l record →
      ask.before.runtime.engine.fire ctx req = .ok (origin, target) →
      Asked l (read :: before) record target

inductive Course (l : Lifecycle) :
    List (Moment Event Services) → Option (Except Fault Record) → Prop
  | unwritten {ms x} : Unwritten ms → (∀ updated, x ≠ some (.ok updated)) → Course l ms x
  | written {asked write after record updated x} : Asked l asked record (stateOf l updated) →
      write.event = .wrote (.ok updated) → Unwritten after →
      (∀ answer, x = some (.ok answer) → answer = updated) → Course l (asked ++ write :: after) x

variable {l : Lifecycle} {ms ms' : List (Moment Event Services)} {record : Record}
  {target : String} {i : Nat}

theorem Asked.unwritten (h : Asked l ms record target) : Unwritten ms := by
  cases h with
  | intro hread hbefore => exact unwritten_cons.2 ⟨by rw [hread]; rfl, hbefore⟩

theorem Asked.append (h : Asked l ms record target) (hms' : Unwritten ms') :
    Asked l (ms ++ ms') record target := by
  cases h with
  | intro hread hbefore hask htype hstate hfire =>
    exact .intro hread (unwritten_append.2 ⟨hbefore, hms'⟩) (List.mem_append_left _ hask) htype
      hstate hfire

theorem stateOf_merge (hfield : l.stateField ≠ "id") (stored : Record) {patch : Record}
    (hpatch : patch.filter (·.1 == l.stateField) = [(l.stateField, .str target)]) :
    stateOf l (stored.merge (patch.filter fun e => e.1 != "id")) = target := by
  have hkept : (patch.filter fun e => e.1 != "id").filter (·.1 == l.stateField) =
      [(l.stateField, .str target)] := by
    rw [← hpatch, List.filter_filter]
    refine List.filter_congr fun e _ => ?_
    by_cases he : e.1 = l.stateField
    · simp [he, hfield]
    · simp [he]
  rw [stateOf, Record.textField?, Record.field?_merge, hkept]
  rfl

theorem proceeds_aside {α : Type} (c : Call Services α) :
    (aside c).Proceeds i fun ms _ => Unwritten ms :=
  Process.proceeds_atomically unwritten_nil fun _ => unwritten_cons.2 ⟨rfl, unwritten_nil⟩

theorem proceeds_beforeUpdate (hspare : p.hooks.Spare p.source id field) (ctx : Context)
    (patch : Record) : (aside (p.hooks.beforeUpdate ctx id patch)).Proceeds i fun ms x =>
      Unwritten ms ∧ ∀ patch', x = some (.ok patch') →
        patch'.filter (·.1 == field) = patch.filter (·.1 == field) := by
  refine Process.proceeds_atomically ⟨unwritten_nil, by simp⟩ fun ⟨supply, s⟩ => ?_
  refine ⟨unwritten_cons.2 ⟨rfl, unwritten_nil⟩, fun patch' h => ?_⟩
  exact (hspare.before ctx patch s supply).2 patch' (Option.some.inj h)

theorem proceeds_update (source : Source) (ctx : Context) (id : String) (patch : Record) :
    (Process.atomically (source.update ctx id patch) Event.wrote).Proceeds i fun ms x =>
      match x with
      | some (.ok updated) => ∃ write, ms = [write] ∧ write.event = .wrote (.ok updated) ∧
          ∃ stored : Record, updated = stored.merge (patch.filter fun e => e.1 != "id")
      | _ => Unwritten ms := by
  refine Process.proceeds_atomically unwritten_nil fun ⟨supply, s⟩ => ?_
  have hwrites := source.ensures_writes ctx id patch s supply
  generalize source.update ctx id patch (supply, s) = outcome at hwrites ⊢
  obtain ⟨r, _, t⟩ := outcome
  cases r with
  | ok updated => exact ⟨_, rfl, rfl, (hwrites.stored updated rfl).2⟩
  | error e => exact unwritten_cons.2 ⟨rfl, unwritten_nil⟩

theorem proceeds_writeSteps (hspare : p.hooks.Spare p.source id l.stateField)
    (hfield : l.stateField ≠ "id") (hasked : Asked l ms record target) (ctx : Context) :
    (p.writeSteps ctx id [(l.stateField, .str target)]).Proceeds i fun ms' x =>
      Course l (ms ++ ms') x := by
  have hunwritten : ∀ {ms'} {x : Option (Except Fault Record)}, Unwritten ms' →
      (∀ updated, x ≠ some (.ok updated)) → Course l (ms ++ ms') x :=
    fun hms' hx => .unwritten (unwritten_append.2 ⟨hasked.unwritten, hms'⟩) hx
  refine (proceeds_beforeUpdate hspare ctx _).bind ?_ (fun _ _ h => hunwritten h.1 (by simp))
    fun _ h => hunwritten h.1 (by simp)
  rintro before patch ⟨hbefore, hspared⟩
  have hpatch : patch.filter (·.1 == l.stateField) = [(l.stateField, .str target)] := by
    rw [hspared patch rfl]
    simp
  refine (proceeds_update p.source ctx id patch).bind ?_
    (fun _ _ h => hunwritten (unwritten_append.2 ⟨hbefore, h⟩) (by simp))
    fun _ h => hunwritten (unwritten_append.2 ⟨hbefore, h⟩) (by simp)
  rintro _ updated ⟨write, rfl, hwrite, stored, rfl⟩
  have hstate := stateOf_merge hfield stored hpatch
  have hwritten : ∀ {after} {x : Option (Except Fault Record)}, Unwritten after →
      (∀ answer, x = some (.ok answer) →
        answer = stored.merge (patch.filter fun e => e.1 != "id")) →
      Course l (ms ++ (before ++ ([write] ++ after))) x := by
    intro after x hafter hx
    have hasked' := hasked.append hbefore
    rw [← hstate] at hasked'
    simpa using Course.written hasked' hwrite hafter hx
  refine (proceeds_aside _).bind ?_ (fun _ _ h => hwritten h (by simp))
    fun _ h => hwritten h (by simp)
  intro after _ hafter
  have hdone := hwritten (x := some (.ok (stored.merge (patch.filter fun e => e.1 != "id")))) hafter
    (by simp)
  simpa using hdone

theorem proceeds_policySteps (p : Panel) (ctx : Context) (id transition : String)
    (metadata : Record) :
    (p.policySteps ctx id transition metadata).Proceeds i fun ms _ => Unwritten ms := by
  unfold policySteps
  split
  · exact proceeds_aside _
  · exact unwritten_nil

theorem proceeds_transitionSteps (hlifecycle : p.lifecycle = some l)
    (hspare : p.hooks.Spare p.source id l.stateField) (hfield : l.stateField ≠ "id") (ctx : Context)
    (transition : String) (metadata : Record) :
    (p.transitionSteps ctx id transition metadata).Proceeds i (Course l) := by
  unfold transitionSteps
  rw [hlifecycle]
  have hread : (Process.atomically (p.source.get ctx id) Event.read).Proceeds i fun ms x =>
      Unwritten ms ∧ ∀ record, x = some (.ok record) →
        ∃ read, ms = [read] ∧ read.event = .read (.ok record) := by
    refine Process.proceeds_atomically ⟨unwritten_nil, by simp⟩ fun s => ?_
    exact ⟨unwritten_cons.2 ⟨rfl, unwritten_nil⟩, fun record h =>
      ⟨_, rfl, congrArg Event.read (Option.some.inj h)⟩⟩
  refine hread.bind ?_ (fun _ _ h => .unwritten h.1 (by simp)) fun _ h => .unwritten h.1 (by simp)
  rintro _ record ⟨hunwritten, hrecord⟩
  obtain ⟨read, rfl, hevent⟩ := hrecord record rfl
  refine (proceeds_policySteps p ctx id _ metadata).bind ?_
    (fun _ _ h => .unwritten (unwritten_append.2 ⟨hunwritten, h⟩) (by simp))
    fun _ h => .unwritten (unwritten_append.2 ⟨hunwritten, h⟩) (by simp)
  intro checks _ hchecks
  have hask : (Process.atomically (Call.asks fun s : Services => s.runtime.engine.fire ctx
      (request ctx id l record (Text.key transition) metadata)) Event.asked).Proceeds i fun ms x =>
        Unwritten ms ∧ ∀ fired, x = some (.ok fired) → ∃ ask, ms = [ask] ∧
          ask.before.runtime.engine.fire ctx
            (request ctx id l record (Text.key transition) metadata) = .ok fired := by
    refine Process.proceeds_atomically ⟨unwritten_nil, by simp⟩ fun s => ?_
    refine ⟨unwritten_cons.2 ⟨rfl, unwritten_nil⟩, fun fired h => ⟨_, rfl, ?_⟩⟩
    rw [Call.asks_apply] at h
    exact Option.some.inj h
  have hopen : ∀ {ms} {x : Option (Except Fault Record)}, Unwritten ms →
      (∀ updated, x ≠ some (.ok updated)) → Course l ([read] ++ (checks ++ ms)) x :=
    fun hms hx =>
      .unwritten (unwritten_append.2 ⟨hunwritten, unwritten_append.2 ⟨hchecks, hms⟩⟩) hx
  refine hask.bind ?_ (fun _ _ h => hopen h.1 (by simp)) fun _ h => hopen h.1 (by simp)
  rintro _ ⟨origin, target⟩ ⟨hasks, hfired⟩
  obtain ⟨ask, rfl, hfire⟩ := hfired _ rfl
  have hasked : Asked l (read :: (checks ++ [ask])) record target :=
    .intro hevent (unwritten_append.2 ⟨hchecks, hasks⟩) (by simp) rfl rfl hfire
  simpa using proceeds_writeSteps hspare hfield hasked ctx

structure Move where
  ctx : Context
  transition : String
  metadata : Record

def moving (p : Panel) (id : String) (moves : List Move) (supply : Supply) (s : Services) :
    World Event Services Record :=
  ⟨moves.map fun m => p.transitionSteps m.ctx id m.transition m.metadata, supply, s⟩

/-- An earlier step of the call that took the step `write`, and what happened between. -/
structure Passage (ms : List (Moment Event Services)) (write : Moment Event Services) where
  earlier : List (Moment Event Services)
  read : Moment Event Services
  between : List (Moment Event Services)
  later : List (Moment Event Services)
  split : ms = earlier ++ read :: (between ++ write :: later)
  call : read.call = write.call

theorem passage_of_filter {read write : Moment Event Services}
    {rest : List (Moment Event Services)} (h : ms.filter (·.call == i) = read :: rest)
    (hwrite : write ∈ rest) : ∃ passage : Passage ms write, passage.read = read := by
  obtain ⟨as, bs, rfl, -, hread, rfl⟩ := List.filter_eq_cons_iff.1 h
  obtain ⟨hmem, hcall⟩ := List.mem_filter.1 hwrite
  obtain ⟨cs, ds, rfl⟩ := List.append_of_mem hmem
  exact ⟨⟨as, read, cs, ds, rfl, (beq_iff_eq.1 hread).trans (beq_iff_eq.1 hcall).symm⟩, rfl⟩

/-- The call read `record` and wrote `updated`, of which the state is one that the engine leads to
from the state of `record`; and `record` was replaced unless another call had written meanwhile. -/
structure Passage.Leads {write : Moment Event Services} (passage : Passage ms write)
    (source : Source) (id : String) (l : Lifecycle) (engine : Workflow.Engine)
    (record updated : Record) : Prop where
  read : passage.read.event = .read (.ok record)
  found : source.record? passage.read.before id = some record
  leads : engine.Leads l.workflowId (stateOf l record) (stateOf l updated)
  replaced : Unwritten passage.between → source.record? write.before id = some record
  stored : source.record? write.after id = some updated

theorem Course.leads {source : Source} {id : String} {s t : Services}
    {x : Option (Except Fault Record)} (h : Course l (ms.filter (·.call == i)) x)
    (hrun : (moveContract source id).Allows s ms t) {m : Moment Event Services} (hm : m ∈ ms)
    (hi : m.call = i) {updated : Record} (hwrote : m.event = .wrote (.ok updated)) :
    ∃ (passage : Passage ms m) (record : Record),
      passage.Leads source id l s.runtime.engine record updated := by
  have hmoment := fun {m'} (hm' : m' ∈ ms) => (hrun.moment trivial hm').2
  have hown : m ∈ ms.filter (·.call == i) := List.mem_filter.2 ⟨hm, beq_iff_eq.2 hi⟩
  have hwrites : m.event.writes = true := by
    rw [hwrote]
    rfl
  generalize hms : ms.filter (·.call == i) = own at h hown
  cases h with
  | unwritten hnone => exact absurd hwrites (Bool.eq_false_iff.1 (hnone m hown))
  | @written asked write after record updated' _ hasked hevent hafter =>
    have hlast : m = write := by
      rcases List.mem_append.1 hown with hmem | hmem
      · exact absurd hwrites (Bool.eq_false_iff.1 (hasked.unwritten m hmem))
      · rcases List.mem_cons.1 hmem with rfl | hmem
        · rfl
        · exact absurd hwrites (Bool.eq_false_iff.1 (hafter m hmem))
    subst hlast
    cases hevent.symm.trans hwrote
    generalize htarget : stateOf l updated = target at hasked
    cases hasked with
    | @intro read ask before _ req ctx origin _ hread hbefore hask htype hstate hfire =>
      have hsub : ∀ m' ∈ read :: before, m' ∈ ms := by
        intro m' hm'
        have hmem : m' ∈ ms.filter (·.call == i) := by
          rw [hms]
          exact List.mem_append_left _ hm'
        exact (List.mem_filter.1 hmem).1
      have hlater : m ∈ before ++ m :: after := List.mem_append_right _ List.mem_cons_self
      obtain ⟨passage, rfl⟩ := passage_of_filter hms hlater
      have hfound := (hmoment (hsub _ List.mem_cons_self)).2.read record hread
      refine ⟨passage, record, hread, hfound, ?_, fun hbetween => ?_, (hmoment hm).2.wrote _ hwrote⟩
      · have hleads := Workflow.Engine.leads_of_fire hfire
        have hengine : ask.before.runtime.engine = s.runtime.engine :=
          (hmoment (hsub ask (List.mem_cons_of_mem _ hask))).1
        rwa [htype, hstate, hengine, ← htarget] at hleads
      · have hpassage := hrun
        rw [passage.split] at hpassage
        rw [← hfound]
        refine hpassage.between.closed
          (R := fun s t => source.record? t id = source.record? s id) (fun _ => rfl)
          (fun hst htu => htu.trans hst) fun m' hm' hallowed => hallowed.still ?_
        rcases List.mem_cons.1 hm' with rfl | hm'
        · rw [hread]
          rfl
        · exact hbetween m' hm'

theorem Course.writes {updated : Record} (h : Course l ms (some (.ok updated))) :
    (ms.map (·.event)).filter (·.writes) = [.wrote (.ok updated)] := by
  have hnone : ∀ {ms}, Unwritten ms → (ms.map (·.event)).filter (·.writes) = [] := by
    intro ms hms
    rw [List.filter_eq_nil_iff]
    intro e he
    obtain ⟨m, hm, rfl⟩ := List.mem_map.1 he
    simp [hms m hm]
  cases h with
  | unwritten _ hfails => exact absurd rfl (hfails updated)
  | written hasked hevent hafter hanswer =>
    cases hanswer updated rfl
    rw [List.map_append, List.map_cons, List.filter_append, hnone hasked.unwritten, hevent,
      List.filter_cons_of_pos rfl, hnone hafter, List.nil_append]

theorem moves_respect (hlifecycle : p.lifecycle = some l)
    (hspare : p.hooks.Spare p.source id l.stateField) (hfield : l.stateField ≠ "id")
    (moves : List Move) (supply : Supply) (s : Services) (turns : List Turn) :
    let ms := ((p.moving id moves supply s).play turns).1
    let w := ((p.moving id moves supply s).play turns).2
    (∀ m ∈ ms, p.source.record? m.after id ≠ p.source.record? m.before id →
        m.event.writes = true) ∧
      (∀ m ∈ ms, ∀ updated, m.event = .wrote (.ok updated) →
        ∃ (passage : Passage ms m) (record : Record),
          passage.Leads p.source id l s.runtime.engine record updated) ∧
      ∀ i updated, w.calls[i]? = some (.done (.ok updated)) →
        (eventsOf i ms).filter (·.writes) = [.wrote (.ok updated)] := by
  intro ms w
  have hrun : (moveContract p.source id).Allows s ms w.state := by
    apply World.play_allowed (p.moving id moves supply s) turns trivial
    intro q hq
    obtain ⟨move, -, rfl⟩ := List.mem_map.1 hq
    exact keeps_transitionSteps hspare move.ctx move.transition move.metadata s
  have hcourse : ∀ i < moves.length,
      Course l (ms.filter (·.call == i)) (w.calls[i]?.bind (·.answer?)) := by
    intro i hi
    have hcall : (p.moving id moves supply s).calls[i]? = some
        (p.transitionSteps moves[i].ctx id moves[i].transition moves[i].metadata) := by
      simp [moving, hi]
    exact World.play_proceeds _ turns hcall
      (proceeds_transitionSteps hlifecycle hspare hfield _ _ _)
  refine ⟨fun m hm hchanged => ?_, fun m hm updated hwrote => ?_, fun i updated hdone => ?_⟩
  · have hstill := (hrun.moment trivial hm).2.2.still
    cases hwrites : m.event.writes with
    | true => rfl
    | false => exact absurd (hstill hwrites) hchanged
  · have hi : m.call < moves.length := by
      simpa [moving] using World.call_lt_length hm
    exact (hcourse _ hi).leads hrun hm rfl hwrote
  · have hi : i < moves.length := by
      have hlt := (List.getElem?_eq_some_iff.1 hdone).1
      rw [World.play_length] at hlt
      simpa [moving] using hlt
    have hwritten := hcourse i hi
    rw [hdone] at hwritten
    exact hwritten.writes

def releasing : Workflow.Definition :=
  ⟨"draft", [⟨"publish", "draft", "published", ""⟩, ⟨"archive", "draft", "archived", ""⟩]⟩

def drafted : Services where
  toStores := { Stores.empty with
    tables := .ofList [("notes", { Repository.new "notes" with
      records := .ofList [("1", [("id", .str "1"), ("status", .str "")])] })]
    runtime := { Workflow.Runtime.empty with engine := ⟨.ofList [("notes", releasing)]⟩ } }
  bus := .empty

def releases : World Event Services Record :=
  (notes "publish").moving "1" [⟨.empty, "publish", []⟩, ⟨.empty, "archive", []⟩] ⟨⟨0, 0⟩, 0⟩
    drafted

def sideBySide : List Turn :=
  (List.replicate 5 [.call 0, .call 1]).flatten

def stateChanges (ms : List (Moment Event Services)) : List (Option String × Option String) :=
  let state (s : Services) : Option String :=
    ((Source.table "notes").record? s "1").map (stateOf ⟨"notes", "status"⟩)
  (ms.filter (·.event.writes)).map fun m => (state m.before, state m.after)

theorem moves_respect_releases :
    let ms := (releases.play sideBySide).1
    ∃ m ∈ ms, ∃ updated, m.event = .wrote (.ok updated) ∧
      ∃ (passage : Passage ms m) (record : Record), passage.Leads (.table "notes") "1"
        ⟨"notes", "status"⟩ drafted.runtime.engine record updated := by
  intro ms
  have hwritten : ms.any (·.event.writes) = true := rfl
  obtain ⟨m, hm, hwrites⟩ := List.any_eq_true.1 hwritten
  obtain ⟨updated, hwrote⟩ : ∃ updated, m.event = .wrote (.ok updated) := by
    cases hevent : m.event with
    | wrote r =>
      cases r with
      | ok updated => exact ⟨updated, rfl⟩
      | error e =>
        rw [hevent] at hwrites
        cases hwrites
    | aside | read | asked =>
      rw [hevent] at hwrites
      cases hwrites
  have hrespect := moves_respect (p := notes "publish") (l := ⟨"notes", "status"⟩) rfl
    (Hooks.spare_none _ "1" _) (by decide) [⟨.empty, "publish", []⟩, ⟨.empty, "archive", []⟩]
    ⟨⟨0, 0⟩, 0⟩ drafted sideBySide
  exact ⟨m, hm, updated, hwrote, hrespect.2.1 m hm updated hwrote⟩

/-- Both transitions succeed, and the states follow one another as no transition leads: a blank
state is none that any leaves, and what is published cannot be archived. -/
theorem archived_after_publishing :
    let w := (releases.play sideBySide).2
    (w.finished = true ∧ w.calls.all (fun c => c.answer?.any (·.isOk)) = true) ∧
      stateChanges (releases.play sideBySide).1 =
        [(some "", some "published"), (some "published", some "archived")] ∧
      drafted.runtime.engine.definition? "notes" = some releasing ∧
      ∀ t ∈ releasing.transitions, (t.source, t.target) ≠ ("", "published") ∧
        (t.source, t.target) ≠ ("published", "archived") := by
  decide

end Panel

end Backoffice

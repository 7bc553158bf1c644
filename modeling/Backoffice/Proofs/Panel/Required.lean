import Backoffice.Proofs.Panel.Isolation
import Backoffice.Proofs.Panel.Moves
import Backoffice.Proofs.Workflow.Determinism
import Backoffice.Proofs.Workflow.Following

namespace Backoffice

theorem Supply.blank_identifier (n : Nat) : Text.blank (identifier n) = false := by
  simp [identifier, Text.blank, Text.isBlank]

namespace Workflow

theorem Definition.target_of_validate {d : Definition} (h : d.validate = .ok ()) :
    ∀ t ∈ d.transitions, Text.blank t.target = false :=
  fun t ht => ((validate_eq_ok_iff.1 h).complete t ht).target

namespace Engine

def Valid (e : Engine) : Prop := ∀ id d, e.definitions.get? id = some d → d.validate = .ok ()

variable {e e' : Engine}

theorem valid_empty : Valid .empty := fun _ _ h => by cases h

theorem Valid.set (he : e.Valid) {id : String} {d : Definition} (hd : d.validate = .ok ()) :
    Valid ⟨e.definitions.set id d⟩ := by
  intro id' d' h
  rw [Dict.get?_set] at h
  split at h
  · cases h
    exact hd
  · exact he id' d' h

theorem Valid.register (he : e.Valid) {id : String} {d : Definition}
    (h : e.register id d = .ok e') : e'.Valid := by
  obtain ⟨-, hd, rfl⟩ := register_eq_ok_iff.1 h
  exact he.set (Definition.validate_eq_ok_iff.2 hd)

theorem Valid.unregister (he : e.Valid) (id : String) : (e.unregister id).2.Valid := by
  intro id' d h
  rw [Engine.unregister, Dict.get?_erase] at h
  split at h
  · cases h
  · exact he id' d h

theorem Valid.foldl_put (he : e.Valid) {ws : List Workflow} (hws : ∀ w ∈ ws, w.Sound) :
    (ws.foldl put e).Valid := by
  induction ws generalizing e with
  | nil => exact he
  | cons w ws ih =>
    exact ih (he.set (hws w List.mem_cons_self).valid)
      fun v hv => hws v (List.mem_cons_of_mem w hv)

theorem Valid.target (he : e.Valid) {ctx : Context} {req : TransitionRequest}
    {origin target : String} (h : e.fire ctx req = .ok (origin, target)) :
    Text.blank target = false := by
  obtain ⟨d, hd, t, ht, -, rfl⟩ := leads_of_fire h
  exact Definition.target_of_validate (he _ d hd) t ht

end Engine

structure Runtime.Healthy (r : Runtime) : Prop where
  sound : r.store.Sound
  valid : r.engine.Valid

theorem Runtime.Healthy.carries {r r' : Runtime} (hr : r.Healthy) (h : Carries r r') :
    r'.Healthy := by
  refine ⟨h.sound hr.sound, ?_⟩
  cases h with
  | nothing | bindings => exact hr.valid
  | workflow hw =>
    unfold told
    split
    · exact hr.valid.set hw.valid
    · exact hr.valid
  | engine =>
    refine hr.valid.foldl_put fun w hw => ?_
    obtain ⟨id, hid⟩ := (Dict.mem_values_iff _ _).1 (List.mem_filter.1 hw).1
    exact hr.sound id w hid

end Workflow

theorem Repository.create_eq_ok {r r' : Repository} {ctx : Context} {n : Nat}
    {record created : Record}
    (h : r.create ctx (Supply.identifier n) record = .ok (created, r')) :
    ∃ id, Text.blank id = false ∧
      r'.records = r.records.set id (Entries.set "id" (.str id) record) := by
  have hfresh := Supply.blank_identifier n
  generalize Supply.identifier n = fresh at h hfresh
  obtain ⟨_, -, h⟩ := bind_eq_ok.1 h
  obtain ⟨-, h⟩ := refuse_eq_ok.1 h
  cases h
  refine ⟨_, ?_, rfl⟩
  cases record.id? with
  | none => exact hfresh
  | some id =>
    dsimp only
    split
    · exact hfresh
    · rename_i hblank
      exact Bool.eq_false_iff.2 hblank

namespace ContentType

variable {c : ContentType}

@[simp] theorem isMissing_str (s : String) : isMissing (some (.str s)) = Text.blank s := rfl

theorem isSome_of_not_missing {v : Option Json} (h : isMissing v = false) : v.isSome := by
  cases v with
  | none => cases h
  | some v => rfl

theorem filled_of_checkRequired {record : Record} (h : c.checkRequired record = .ok ()) :
    ∀ k ∈ c.requiredFields, isMissing (record.field? k) = false := by
  unfold checkRequired at h
  split at h
  · cases h
  · rename_i hfind
    simpa using List.find?_eq_none.1 hfind

def Kept (c : ContentType) (P : String → String → Prop) (records : Dict Record) : Prop :=
  ∀ id record, records.get? id = some record → ∀ k ∈ c.requiredFields,
    (record.field? k).isSome ∧ (isMissing (record.field? k) = true → P id k)

def Blanks (patch : Record) (k : String) : Prop :=
  k ≠ "id" ∧ ∃ v, (k, v) ∈ patch ∧ isMissing (some v) = true

variable {P Q : String → String → Prop} {records : Dict Record}

theorem kept_empty : c.Kept P .empty := fun _ _ h => by cases h

theorem Kept.mono (h : c.Kept P records) (hPQ : ∀ id k, P id k → Q id k) : c.Kept Q records :=
  fun id record hrecord k hk =>
    ⟨(h id record hrecord k hk).1, fun hmissing => hPQ id k ((h id record hrecord k hk).2 hmissing)⟩

theorem Kept.set (h : c.Kept P records) {id : String} {record : Record}
    (hrecord : ∀ k ∈ c.requiredFields,
      (record.field? k).isSome ∧ (isMissing (record.field? k) = true → P id k)) :
    c.Kept P (records.set id record) := by
  intro id' record' h'
  rw [Dict.get?_set] at h'
  split at h'
  · rename_i hid
    cases h'
    rw [hid]
    exact hrecord
  · exact h id' record' h'

theorem Kept.erase (h : c.Kept P records) (id : String) : c.Kept P (records.erase id) := by
  intro id' record h'
  rw [Dict.get?_erase] at h'
  split at h'
  · cases h'
  · exact h id' record h'

theorem Kept.create {r r' : Repository} (h : c.Kept P r.records) {ctx : Context} {n : Nat}
    {record created : Record} (hrequired : c.checkRequired record = .ok ())
    (hcreate : r.create ctx (Supply.identifier n) record = .ok (created, r')) :
    c.Kept P r'.records := by
  obtain ⟨id, hid, hr'⟩ := Repository.create_eq_ok hcreate
  rw [hr']
  refine h.set fun k hk => ?_
  have hfilled : isMissing (Record.field? (Entries.set "id" (.str id) record) k) = false := by
    by_cases hkey : k = "id"
    · rw [hkey, Record.field?, Entries.get?_set_self, isMissing_str]
      exact hid
    · rw [Record.field?, Entries.get?_set_ne hkey]
      exact filled_of_checkRequired hrequired k hk
  refine ⟨isSome_of_not_missing hfilled, fun hmissing => ?_⟩
  rw [hfilled] at hmissing
  cases hmissing

theorem Kept.update {r r' : Repository} (h : c.Kept P r.records) {ctx : Context} {id : String}
    {patch updated : Record} (hupdate : r.update ctx id patch = .ok (updated, r')) :
    c.Kept (fun id' k => P id' k ∨ id' = id ∧ Blanks patch k) r'.records := by
  obtain ⟨stored, hget, hupdate⟩ := bind_eq_ok.1 hupdate
  cases hupdate
  refine (h.mono fun _ _ => .inl).set fun k hk => ?_
  rw [Record.field?_merge]
  cases hlast : ((patch.filter fun e => e.1 != "id").filter (·.1 == k)).getLast? with
  | none =>
    obtain ⟨hsome, hmissing⟩ := h id stored (Repository.get_eq_ok hget) k hk
    exact ⟨hsome, fun hm => .inl (hmissing hm)⟩
  | some e =>
    obtain ⟨j, v⟩ := e
    obtain ⟨hmem, hj⟩ := List.mem_filter.1 (List.mem_of_getLast? hlast)
    obtain ⟨hmem, hid⟩ := List.mem_filter.1 hmem
    cases beq_iff_eq.1 hj
    exact ⟨rfl, fun hm => .inr ⟨rfl, by simpa using hid, v, hmem, hm⟩⟩

end ContentType

namespace ContentRecords

open Call (Ensures ensures_state ensures_throw ensures_ofExcept ensures_change ensures_pure)

variable {c : ContentType} {s : ContentRecords}

theorem leaves_writing {α : Type} {operation : String}
    {f : Repository → Except Fault (α × Repository)} {I : Dict Record → Prop}
    (hs : I (s.recordsOf c.id))
    (hf : ∀ r a r', I r.records → f r = .ok (a, r') → I r'.records) :
    (writing c operation f).Leaves s fun t => I (t.recordsOf c.id) := by
  refine Ensures.seq (ensures_state ?_)
  dsimp only
  split
  · exact Ensures.seq (ensures_throw hs)
  · refine Ensures.bind (Panel.ensures_partition_records c s) ?_ ?_
    · rintro r t ⟨hsame, _, ⟨⟩, hrecords⟩
      have ht : I (t.recordsOf c.id) := by rwa [hsame.records]
      refine Ensures.seq (ensures_ofExcept (fun written hwrite => ?_) fun _ _ => ht)
      obtain ⟨a, r'⟩ := written
      refine Ensures.seq (ensures_change (ensures_pure ?_))
      have hr : I r.records := by rwa [hrecords]
      have hr' := hf r a r' hr hwrite
      simpa [recordsOf] using hr'
    · rintro e t ⟨-, _, ⟨⟩, -⟩

theorem leaves_create {P : String → String → Prop} (hs : c.Kept P (s.recordsOf c.id))
    (ctx : Context) (record : Record) :
    (create ctx c record).Leaves s fun t => c.Kept P (t.recordsOf c.id) := by
  refine Ensures.seq (ensures_ofExcept (fun _ hrequired => ?_) fun _ _ => hs)
  refine Ensures.seq (Call.ensures_identifier fun n => ?_)
  exact leaves_writing hs fun r _ r' hr h => hr.create hrequired h

theorem leaves_update {P : String → String → Prop} (hs : c.Kept P (s.recordsOf c.id))
    (ctx : Context) (id : String) (patch : Record) :
    (update ctx c id patch).Leaves s fun t => c.Kept
      (fun id' k => P id' k ∨ id' = id ∧ ContentType.Blanks patch k) (t.recordsOf c.id) := by
  refine leaves_writing (hs.mono fun _ _ => .inl) fun r _ r' hr h => ?_
  exact (hr.update h).mono fun _ _ hk => hk.elim (fun h => h) .inr

theorem leaves_delete {P : String → String → Prop} (hs : c.Kept P (s.recordsOf c.id))
    (ctx : Context) (id : String) :
    (delete ctx c id).Leaves s fun t => c.Kept P (t.recordsOf c.id) := by
  refine leaves_writing hs fun r _ r' hr h => ?_
  obtain ⟨r'', h, hr'⟩ := bind_eq_ok.1 h
  obtain ⟨_, -, h⟩ := bind_eq_ok.1 h
  cases h
  cases hr'
  exact hr.erase id

end ContentRecords

namespace Panel

open Call (Ensures Leaves ensures_asks ensures_mapM ensures_ofExcept ensures_pure ensures_throw)

variable {c : ContentType} {p : Panel} {P Q : String → String → Prop} {s t : Services}
  {α : Type}

structure OfType (c : ContentType) (p : Panel) : Prop where
  source : p.source = .content c
  plain : p.Plain

theorem Factory.target_of_transition {engine : Workflow.Engine} {l : Lifecycle} {a : Action}
    (ha : a ∈ transitionActions engine l) : ∃ name, a.target = .transition name := by
  unfold transitionActions at ha
  split at ha
  · obtain ⟨name, -, rfl⟩ := List.mem_map.1 ha
    exact ⟨name, rfl⟩
  · cases ha

theorem Factory.buildPanel_plain {f : Factory} {runtime : Workflow.Runtime} {ctx : Context}
    {c : ContentType} {environment slug : String}
    (h : f.buildPanel runtime ctx c environment slug = .ok p) : p.Plain := by
  refine ⟨buildPanel_hooks h, fun a ha hdelegates => ?_⟩
  unfold buildPanel at h
  obtain ⟨lifecycle, -, h⟩ := bind_eq_ok.1 h
  obtain ⟨-, hactions, hbulk, -⟩ := Builder.build_eq_ok h
  rw [hactions, hbulk, Builder.new, List.append_nil] at ha
  rcases List.mem_append.1 ha with ha | ha
  · obtain ⟨name, -, rfl⟩ := List.mem_map.1 ha
    rcases hdelegates with ⟨_, htarget⟩ | ⟨_, htarget, -⟩ <;> cases htarget
  · cases lifecycle with
    | none => cases ha
    | some l =>
      obtain ⟨name, hname⟩ := target_of_transition ha
      rcases hdelegates with ⟨_, htarget⟩ | ⟨_, htarget, -⟩ <;> cases hname.symm.trans htarget

theorem Factory.ofType_buildPanel {f : Factory} {runtime : Workflow.Runtime} {ctx : Context}
    {environment slug : String} (h : f.buildPanel runtime ctx c environment slug = .ok p) :
    OfType c p :=
  ⟨buildPanel_source h, buildPanel_plain h⟩

structure Tidy (c : ContentType) (P : String → String → Prop) (s : Services) : Prop where
  kept : c.Kept P (s.content.recordsOf c.id)
  healthy : s.runtime.Healthy

theorem Tidy.mono (h : Tidy c P s) (hPQ : ∀ id k, P id k → Q id k) : Tidy c Q s :=
  ⟨h.kept.mono hPQ, h.healthy⟩

theorem Tidy.reads (h : Tidy c P s) (ht : s.Reads t) : Tidy c P t := by
  constructor
  · rw [ht.content.records]
    exact h.kept
  · rw [ht.rest]
    exact h.healthy

theorem Tidy.onContent (hs : Tidy c P s) {call : Call ContentRecords α}
    (h : call.Leaves s.content fun t => c.Kept Q (t.recordsOf c.id)) :
    (Services.onContent call).Leaves s (Tidy c Q) :=
  Ensures.within (h.imp fun _ _ ht => ⟨ht, hs.healthy⟩)

variable (hp : OfType c p)
include hp

theorem OfType.leaves_create (hs : Tidy c P s) (ctx : Context) (record : Record) :
    (p.create ctx record).Leaves s (Tidy c P) := by
  unfold create
  simp only [hp.plain.hooks, hp.source, Hooks.none, pure_bind]
  refine Ensures.seq (ensures_ofExcept (fun _ _ => ?_) fun _ _ => hs)
  exact Leaves.bind (hs.onContent (ContentRecords.leaves_create hs.kept ctx record))
    (fun _ _ ht => ensures_pure ht) fun _ ht => ht

theorem OfType.leaves_write (hs : Tidy c P s) (ctx : Context) (id : String) (patch : Record) :
    (p.write ctx id patch).Leaves s
      (Tidy c fun id' k => P id' k ∨ id' = id ∧ ContentType.Blanks patch k) := by
  unfold write
  simp only [hp.plain.hooks, hp.source, Hooks.none, pure_bind]
  exact Leaves.bind (hs.onContent (ContentRecords.leaves_update hs.kept ctx id patch))
    (fun _ _ ht => ensures_pure ht) fun _ ht => ht

theorem OfType.leaves_update (hs : Tidy c P s) (ctx : Context) (id : String) (patch : Record) :
    (p.update ctx id patch).Leaves s
      (Tidy c fun id' k => P id' k ∨ id' = id ∧ ContentType.Blanks patch k) :=
  Ensures.seq (ensures_ofExcept (fun _ _ => hp.leaves_write hs ctx id patch)
    fun _ _ => hs.mono fun _ _ => .inl)

theorem OfType.leaves_delete (hs : Tidy c P s) (ctx : Context) (id : String) :
    (p.delete ctx id).Leaves s (Tidy c P) := by
  unfold delete
  simp only [hp.plain.hooks, hp.source, Hooks.none, pure_bind]
  refine Ensures.seq (ensures_ofExcept (fun _ _ => ?_) fun _ _ => hs)
  exact Leaves.bind (hs.onContent (ContentRecords.leaves_delete hs.kept ctx id))
    (fun _ _ ht => ensures_pure ht) fun _ ht => ht

theorem OfType.leaves_fired (hs : Tidy c P s) (ctx : Context) (id : String) (l : Lifecycle)
    (r : Workflow.TransitionRequest) :
    ((Call.asks fun s : Services => s.runtime.engine.fire ctx r) >>= fun (_, target) =>
      p.write ctx id [(l.stateField, .str target)]).Leaves s (Tidy c P) := by
  refine Ensures.seq (ensures_asks (fun fired hfire => ?_) fun _ _ => hs)
  obtain ⟨origin, target⟩ := fired
  have hfilled := hs.healthy.valid.target hfire
  refine (hp.leaves_write hs ctx id _).imp fun _ _ ht => ht.mono fun id' k hk => ?_
  rcases hk with hk | ⟨-, -, v, hv, hmissing⟩
  · exact hk
  · cases List.mem_singleton.1 hv
    rw [ContentType.isMissing_str, hfilled] at hmissing
    cases hmissing

theorem OfType.leaves_transitionRecord (hs : Tidy c P s) (ctx : Context) (id name : String)
    (metadata : Record) : (p.transitionRecord ctx id name metadata).Leaves s (Tidy c P) := by
  unfold transitionRecord
  split
  · exact ensures_throw hs
  · refine Leaves.bind ((p.source.leaves_get ctx id s).imp fun _ _ ht => hs.reads ht)
      (fun record t ht => ?_) fun _ ht => ht
    dsimp only
    split
    · refine Leaves.bind (I := Tidy c P) (fun _ => ⟨ht.kept, ht.healthy⟩) (fun _ u hu => ?_)
        fun _ hu => hu
      exact hp.leaves_fired hu ctx id _ _
    · exact hp.leaves_fired ht ctx id _ _

theorem OfType.leaves_execute (hs : Tidy c P s) (ctx : Context) {a : Action}
    (hown : ¬p.Delegates a) (r : ActionRequest) : (p.execute ctx a r).Leaves s (Tidy c P) := by
  refine Ensures.seq (ensures_ofExcept (fun _ _ => ?_) fun _ _ => hs)
  refine Ensures.seq (ensures_ofExcept (fun _ _ => ?_) fun _ _ => hs)
  cases htarget : a.target with
  | handler run => exact absurd (.inl ⟨run, htarget⟩) hown
  | client => exact ensures_throw hs
  | command name =>
    dsimp only
    split
    · rename_i hcommands
      exact absurd (.inr ⟨name, htarget, hcommands⟩) hown
    · exact ensures_throw hs
  | transition name =>
    dsimp only
    split
    · exact ensures_throw hs
    · refine Leaves.answer (ensures_mapM (fun id _ t ht => ?_) hs)
      exact hp.leaves_transitionRecord ht ctx id name r.payload

theorem OfType.leaves_runAction (hs : Tidy c P s) (ctx : Context) (name : String)
    (r : ActionRequest) : (p.runAction ctx name r).Leaves s (Tidy c P) := by
  unfold runAction
  split
  · rename_i a hfind
    have ha := List.mem_append_left p.bulkActions (Action.mem_of_find? hfind)
    exact hp.leaves_execute hs ctx (hp.plain.actions a ha) r
  · split
    · exact hp.leaves_execute hs ctx (by simp [Delegates, Action.transition, Action.new]) r
    · exact ensures_throw hs

theorem OfType.leaves_runBulkAction (hs : Tidy c P s) (ctx : Context) (name : String)
    (r : ActionRequest) : (p.runBulkAction ctx name r).Leaves s (Tidy c P) := by
  unfold runBulkAction
  dsimp only
  split
  · exact ensures_throw hs
  · split
    · rename_i a hfind
      have ha := List.mem_append_right p.actions (Action.mem_of_find? hfind)
      exact hp.leaves_execute hs ctx (hp.plain.actions a ha) r
    · exact ensures_throw hs

omit hp

namespace Deed

def after (p : Panel) (ctx : Context) (supply : Supply) (s : Services) (d : Deed) : Services :=
  (d.call p ctx (supply, s)).2.2

/-- An update of the record that names the field, with a value that does not fill it. -/
def Blanks (id k : String) : Deed → Prop
  | update id' patch => id = id' ∧ ContentType.Blanks patch k
  | _ => False

theorem leaves_call (hp : OfType c p) (hs : Tidy c P s) (ctx : Context) (d : Deed) :
    (d.call p ctx).Leaves s (Tidy c fun id k => P id k ∨ d.Blanks id k) := by
  have hkept : ∀ {α} {call : Call Services α}, call.Leaves s (Tidy c P) →
      call.Leaves s (Tidy c fun id k => P id k ∨ d.Blanks id k) :=
    fun h => h.imp fun _ _ ht => ht.mono fun _ _ => .inl
  cases d with
  | list o => exact Leaves.answer (hkept ((p.leaves_list ctx o s).imp fun _ _ ht => hs.reads ht))
  | get id => exact Leaves.answer (hkept ((p.leaves_get ctx id s).imp fun _ _ ht => hs.reads ht))
  | create record => exact Leaves.answer (hkept (hp.leaves_create hs ctx record))
  | update id patch => exact Leaves.answer (hp.leaves_update hs ctx id patch)
  | delete id => exact hkept (hp.leaves_delete hs ctx id)
  | transition id name metadata =>
    exact Leaves.answer (hkept (hp.leaves_transitionRecord hs ctx id name metadata))
  | action name r => exact Leaves.answer (hkept (hp.leaves_runAction hs ctx name r))
  | bulkAction name r => exact Leaves.answer (hkept (hp.leaves_runBulkAction hs ctx name r))

end Deed

open Workflow (Runtime Engine)

/-- What calls on panels of a content type have made of the services, from the first to the last,
when there were no records of it at first. The workflows and the engine are those that calls have
left, and whatever else happens leaves the records of the content type alone. -/
inductive Tended (c : ContentType) : List Deed → Services → Prop
  | start {s : Services} : s.runtime = .empty → s.content.recordsOf c.id = .empty → Tended c [] s
  | call {deeds : List Deed} {s : Services} {p : Panel} {ctx : Context} {supply : Supply}
    {d : Deed} : Tended c deeds s → OfType c p →
      Tended c (deeds ++ [d]) (d.after p ctx supply s)
  | workflow {deeds : List Deed} {s : Services} {ctx : Context} {supply : Supply}
    {command : Runtime.Command} : Tended c deeds s →
      Tended c deeds { s with runtime := (command.call ctx (supply, s.runtime)).2.2 }
  | registered {deeds : List Deed} {s : Services} {e : Engine} {id : String}
    {d : Workflow.Definition} : Tended c deeds s → s.runtime.engine.register id d = .ok e →
      Tended c deeds { s with runtime := { s.runtime with engine := e } }
  | withdrawn {deeds : List Deed} {s : Services} {id : String} : Tended c deeds s →
      Tended c deeds
        { s with runtime := { s.runtime with engine := (s.runtime.engine.unregister id).2 } }
  | elsewhere {deeds : List Deed} {s t : Services} : Tended c deeds s → t.runtime = s.runtime →
      t.content.recordsOf c.id = s.content.recordsOf c.id → Tended c deeds t

theorem Tended.tidy {deeds : List Deed} (h : Tended c deeds s) :
    Tidy c (fun id k => ∃ d ∈ deeds, d.Blanks id k) s := by
  induction h with
  | start hruntime hrecords =>
    refine ⟨?_, ?_⟩
    · rw [hrecords]
      exact ContentType.kept_empty
    · rw [hruntime]
      exact ⟨Workflow.Store.sound_empty, Engine.valid_empty⟩
  | @call deeds s p ctx supply d _ hp ih =>
    refine Tidy.mono (Deed.leaves_call hp ih ctx d supply) fun id k hk => ?_
    rcases hk with ⟨d', hd', hk⟩ | hk
    · exact ⟨d', List.mem_append_left _ hd', hk⟩
    · exact ⟨d, List.mem_concat_self, hk⟩
  | @workflow deeds s ctx supply command _ ih =>
    exact ⟨ih.kept, ih.healthy.carries (Runtime.call_carries ih.healthy.sound ctx command supply)⟩
  | registered _ hregister ih =>
    exact ⟨ih.kept, ih.healthy.sound, ih.healthy.valid.register hregister⟩
  | withdrawn _ ih => exact ⟨ih.kept, ih.healthy.sound, ih.healthy.valid.unregister _⟩
  | elsewhere _ hruntime hrecords ih =>
    refine ⟨?_, ?_⟩
    · rw [hrecords]
      exact ih.kept
    · rw [hruntime]
      exact ih.healthy

theorem required_kept {deeds : List Deed} (h : Tended c deeds s) (id : String) (record : Record)
    (hrecord : (s.content.recordsOf c.id).get? id = some record) :
    ∀ k ∈ c.requiredFields, (record.field? k).isSome ∧
      (ContentType.isMissing (record.field? k) = true → ∃ d ∈ deeds, d.Blanks id k) :=
  h.tidy.kept id record hrecord

def news : ContentType :=
  ⟨"1", "news", "news", "", .active, .obj [("required", .arr [.str "title"])], .null, [], "",
    ⟨0, 0⟩, ⟨0, 0⟩⟩

def launch : Record := [("id", .str "1"), ("title", .str "Launch")]

def announced (p : Panel) (patch : Record) : Services :=
  (Deed.update "1" patch).after p .empty ⟨⟨0, 0⟩, 0⟩
    ((Deed.create launch).after p .empty ⟨⟨0, 0⟩, 0⟩
      ⟨.empty, .empty⟩)

theorem tended_announced (hp : OfType news p) (patch : Record) :
    Tended news [.create launch, .update "1" patch] (announced p patch) := by
  change Tended news (([] ++ [.create launch]) ++ [.update "1" patch]) _
  exact .call (.call (.start rfl rfl) hp) hp

def title? (p : Panel) (patch : Record) : Option (Option Json) :=
  (((announced p patch).content.recordsOf "1").get? "1").map (·.field? "title")

theorem news_built : ∃ p, Factory.bare.buildPanel .empty .empty news "" "news" = .ok p ∧
    (title? p [("body", .str "Today")]).isSome = true ∧
      (title? p [("title", .null)]).map ContentType.isMissing = some true := by
  have hbuilt : ((Factory.bare.buildPanel .empty .empty news "" "news").toOption.map fun p =>
      (title? p [("body", .str "Today")]).isSome &&
        (title? p [("title", .null)]).map ContentType.isMissing == some true) = some true := by
    decide
  cases hp : Factory.bare.buildPanel .empty .empty news "" "news" with
  | error e =>
    rw [hp] at hbuilt
    cases hbuilt
  | ok p =>
    rw [hp] at hbuilt
    have hboth := Option.some.inj hbuilt
    rw [Bool.and_eq_true, beq_iff_eq] at hboth
    exact ⟨p, rfl, hboth⟩

theorem required_kept_body : ∃ p, Factory.bare.buildPanel .empty .empty news "" "news" = .ok p ∧
    let s := announced p [("body", .str "Today")]
    ∃ record, (s.content.recordsOf "1").get? "1" = some record ∧
      ContentType.isMissing (record.field? "title") = false := by
  obtain ⟨p, hp, hstored, -⟩ := news_built
  obtain ⟨field, hfield⟩ := Option.isSome_iff_exists.1 hstored
  obtain ⟨record, hrecord, -⟩ := Option.map_eq_some_iff.1 hfield
  have htended := tended_announced (Factory.ofType_buildPanel hp) [("body", .str "Today")]
  have hkept := required_kept htended "1" record hrecord "title" (by decide)
  refine ⟨p, hp, record, hrecord, Bool.eq_false_iff.2 fun hmissing => ?_⟩
  obtain ⟨d, hd, hblanks⟩ := hkept.2 hmissing
  simp only [List.mem_cons, List.not_mem_nil, or_false] at hd
  rcases hd with rfl | rfl
  · exact hblanks
  · obtain ⟨-, -, v, hv, -⟩ := hblanks
    simp at hv

/-- The title of a stored record is blanked by an update. -/
theorem required_blanked : ∃ p, Factory.bare.buildPanel .empty .empty news "" "news" = .ok p ∧
    let s := announced p [("title", .null)]
    Tended news [.create launch, .update "1" [("title", .null)]] s ∧
      "title" ∈ news.requiredFields ∧
      ∃ record, (s.content.recordsOf news.id).get? "1" = some record ∧
        ContentType.isMissing (record.field? "title") = true := by
  obtain ⟨p, hp, -, hblanked⟩ := news_built
  obtain ⟨field, hfield, hmissing⟩ := Option.map_eq_some_iff.1 hblanked
  obtain ⟨record, hrecord, rfl⟩ := Option.map_eq_some_iff.1 hfield
  exact ⟨p, hp, tended_announced (Factory.ofType_buildPanel hp) _, by decide +kernel, record,
    hrecord, hmissing⟩

end Panel

end Backoffice

import Backoffice.Proofs.Workflow.Following
import Backoffice.Proofs.Workflow.Written

namespace Backoffice.Workflow

structure Canonical (w : Workflow) : Prop extends Sound w where
  name : Text.trim w.name = w.name
  titled : Text.blank w.name = false
  environment : Text.key w.environment = w.environment

theorem Draft.canonical {d : Draft} {now : Instant} {n : Nat}
    (h : (d.workflow now (Supply.identifier n)).validate = .ok ()) :
    (d.workflow now (Supply.identifier n)).Canonical where
  toSound := Draft.sound h
  name := Text.trim_trim d.name
  titled := (validate_iff.1 h).2.1
  environment := Text.key_key _

variable {w : Workflow}

theorem Update.canonical (u : Update) {now : Instant} (hw : w.Canonical)
    (h : (u.applyTo now w).validate = .ok ()) : (u.applyTo now w).Canonical where
  toSound := u.sound hw.toSound h
  name := by
    cases hname : u.name with
    | none => simpa only [Update.applyTo, hname] using hw.name
    | some name => simp only [Update.applyTo, hname, Text.trim_trim]
  titled := (validate_iff.1 h).2.1
  environment := by
    cases henv : u.environment with
    | none => simpa only [Update.applyTo, henv] using hw.environment
    | some environment => simp only [Update.applyTo, henv, Text.key_key]

theorem Canonical.stamped (hw : w.Canonical) (version : Nat) (createdAt : Instant) :
    { w with version, createdAt }.Canonical :=
  ⟨hw.toSound.stamped version createdAt, hw.name, hw.titled, hw.environment⟩

theorem hereditary_canonical : Hereditary Canonical where
  drawn := Draft.canonical
  changed hw := Update.canonical _ hw
  stamped := Canonical.stamped

def restored (w : Workflow) (rev : Revision) (now : Instant) : Workflow :=
  { w with
    name := rev.name
    status := rev.status
    version := w.version + 1
    environment := rev.environment
    definition := rev.definition
    updatedAt := now }

theorem Canonical.applyTo {v : Workflow} (hv : v.Canonical) (w : Workflow) (now : Instant) :
    { (Update.ofRevision v.revision).applyTo now w with
      version := w.version + 1, createdAt := w.createdAt } = w.restored v.revision now := by
  simp only [Update.applyTo, Update.ofRevision, revision, restored, hv.name, hv.environment,
    hv.trimmed, Option.getD_some]

theorem Canonical.restored {v : Workflow} (hv : v.Canonical) (hw : w.Canonical) (now : Instant) :
    (w.restored v.revision now).Canonical where
  key := hw.key
  named := hw.named
  trimmed := hv.trimmed
  valid := hv.valid
  name := hv.name
  titled := hv.titled
  environment := hv.environment

namespace Store

variable {s : Store} {ctx : Context}

theorem getWorkflow_of_stored (hctx : ctx.ensureActive = .ok ()) {id : String}
    (hw : s.workflows.get? id = some w) : s.getWorkflow ctx id = .ok w := by
  rw [getWorkflow, hctx, hw]
  rfl

theorem replaceWorkflow_of_stored (hctx : ctx.ensureActive = .ok ()) {v current : Workflow}
    (hcurrent : s.workflows.get? v.id = some current) :
    s.replaceWorkflow ctx v current.version =
      .ok ({ v with version := current.version + 1, createdAt := current.createdAt },
        s.write { v with version := current.version + 1, createdAt := current.createdAt }) := by
  rw [replaceWorkflow, getWorkflow_of_stored hctx hcurrent]
  simp [Version.next, bind, Except.bind]

theorem Recorded.getRevision (h : Recorded s w) (hctx : ctx.ensureActive = .ok ())
    (hw : s.workflows.get? w.id = some w) {rev : Revision} (hrev : rev ∈ s.history w.id) :
    s.getRevision ctx w.id rev.version = .ok rev := by
  obtain ⟨h1, h2⟩ := h.mem_version hrev
  obtain ⟨rev', hget, -, hversion⟩ := (h.consulted hctx hw).found rev.version h1 h2
  have hrev' := (getRevision_mem hget).1
  rw [hget, h.unique hrev' hrev hversion]

theorem getRevision_of_missing (hctx : ctx.ensureActive = .ok ()) {id : String} {v : Nat}
    (h : ∀ rev ∈ s.history id, rev.version ≠ v) :
    s.getRevision ctx id v = .error (.notFound "workflow revision" (id ++ "@" ++ toString v)) := by
  have hnone : (s.history id).find? (·.version == v) = none :=
    List.find?_eq_none.2 fun rev hrev => by simpa using h rev hrev
  rw [getRevision_eq hctx, hnone]

end Store

namespace Runtime

open Store (Chronicled Recorded)

variable {r : Runtime} {ctx : Context}

theorem asks_getWorkflow (hctx : ctx.ensureActive = .ok ())
    (hw : r.store.workflows.get? w.id = some w) (hkey : Text.key w.id = w.id) (supply : Supply) :
    Call.asks (fun r : Runtime => r.store.getWorkflow ctx (Text.key w.id)) (supply, r) =
      (.ok w, supply, r) := by
  rw [Call.asks_apply, hkey, Store.getWorkflow_of_stored hctx hw]

theorem updateWorkflow_apply (hctx : ctx.ensureActive = .ok ()) (hversion : 1 ≤ w.version)
    (hw : r.store.workflows.get? w.id = some w) (hkey : Text.key w.id = w.id) {u : Update}
    {supply : Supply} {next : Workflow}
    (hu : { u.applyTo supply.now.1 w with version := w.version + 1, createdAt := w.createdAt } =
      next) (hnext : next.Canonical) : updateWorkflow ctx w.id u w.version (supply, r) =
      (.ok next, supply.now.2, { r with store := r.store.write next }.told next) := by
  have hexpected : Version.requireExpected w.version = .ok () := if_neg (by omega)
  have hreplace : onStore (fun s => s.replaceWorkflow ctx (u.applyTo supply.now.1 w) w.version)
      (supply.now.2, r) = (.ok next, supply.now.2, { r with store := r.store.write next }) := by
    rw [onStore_apply, Store.replaceWorkflow_of_stored (v := u.applyTo supply.now.1 w) hctx hw, hu]
  have hvalid : (u.applyTo supply.now.1 w).validate = .ok () := by
    have happlied := hu ▸ hnext
    exact validate_iff.2 ⟨happlied.named, happlied.titled, happlied.valid⟩
  rw [updateWorkflow, hexpected, Call.ofExcept_ok, pure_bind,
    Call.bind_apply_ok (asks_getWorkflow hctx hw hkey _), Call.bind_apply_ok (Call.now_apply _), hvalid, Call.ofExcept_ok, pure_bind,
    Call.bind_apply_ok hreplace, Call.bind_apply_ok (follow_apply hnext.toSound _ _)]
  rfl

theorem rollbackWorkflow_apply (hctx : ctx.ensureActive = .ok ()) (hversion : 1 ≤ w.version)
    (hw : r.store.workflows.get? w.id = some w) (hkey : Text.key w.id = w.id) (target : Nat)
    (supply : Supply) : rollbackWorkflow ctx w.id target w.version (supply, r) =
      (readRevision ctx w.id target >>= fun rev =>
        updateWorkflow ctx w.id (.ofRevision rev) w.version) (supply, r) := by
  have hexpected : Version.requireExpected w.version = .ok () := if_neg (by omega)
  rw [rollbackWorkflow, hexpected, Call.ofExcept_ok, pure_bind,
    Call.bind_apply_ok (asks_getWorkflow hctx hw hkey _), hkey]
  rfl

/-- What a rollback of `w` leaves of a runtime when it has written `next`. -/
structure RolledBack (r : Runtime) (ctx : Context) (w next : Workflow) (r' : Runtime) : Prop where
  stored : r'.store.workflows.get? w.id = some next
  recorded : r'.store.history w.id = r.store.history w.id ++ [next.revision]
  revision : r'.store.getRevision ctx w.id (w.version + 1) = .ok next.revision
  earlier : ∀ v, v ≤ w.version →
    r'.store.getRevision ctx w.id v = r.store.getRevision ctx w.id v
  others : ∀ id, id ≠ w.id → r'.store.workflows.get? id = r.store.workflows.get? id ∧
    r'.store.history id = r.store.history id
  bindings : r'.store.bindings = r.store.bindings
  engine : r' = { r with store := r'.store }.told next

theorem rolledBack_write (hctx : ctx.ensureActive = .ok ()) (hchronicled : Chronicled r.store)
    (hw : r.store.workflows.get? w.id = some w) {next : Workflow} (hid : next.id = w.id)
    (hversion : next.version = w.version + 1) :
    RolledBack r ctx w next ({ r with store := r.store.write next }.told next) := by
  have hrec : Recorded r.store w := (hchronicled.recorded hw).2
  have hnext : next.version = r.store.versionAt next.id + 1 := by
    rw [hversion, hid, Store.versionAt, hw]
  have hwrite := hchronicled.history_write hnext
  have hhistory : (r.store.write next).history w.id = r.store.history w.id ++ [next.revision] := by
    rw [hwrite, if_pos hid.symm]
  have hfind : ∀ v, ((r.store.write next).history w.id).find? (·.version == v) =
      ((r.store.history w.id).find? (·.version == v)).or
        (if next.version == v then some next.revision else none) := by
    intro v
    rw [hhistory, List.find?_append, List.find?_singleton]
    rfl
  constructor
  case stored => rw [store_told, Store.get?_write, if_pos hid.symm]
  case recorded => rw [store_told, hhistory]
  case revision =>
    have hnone : (r.store.history w.id).find? (·.version == w.version + 1) = none := by
      refine List.find?_eq_none.2 fun rev hrev => ?_
      have hle := (hrec.mem_version hrev).2
      simp only [beq_iff_eq]
      omega
    rw [store_told, Store.getRevision_eq hctx, hfind, hnone, hversion, beq_self_eq_true, if_pos rfl]
    rfl
  case earlier =>
    intro v hv
    have hne : ¬(next.version == v) = true := by
      rw [hversion, beq_iff_eq]
      omega
    rw [store_told, Store.getRevision_eq hctx, hfind, if_neg hne, Option.or_none,
      Store.getRevision_eq hctx]
  case others =>
    intro id hne
    rw [store_told, Store.get?_write, hwrite, if_neg (hid ▸ hne), if_neg (hid ▸ hne)]
    exact ⟨rfl, rfl⟩
  case bindings => rw [store_told]; rfl
  case engine => rw [store_told]

theorem rollback_restores (e : Engine) (calls : List (Context × Command)) (supply : Supply)
    (turns : List Turn) (engine : Engine) (bound : Bool) :
    let r : Runtime := { reached e calls supply turns with engine, bound }
    ∀ id w, r.store.workflows.get? id = some w → ∀ ctx, ctx.ensureActive = .ok () → ∀ supply',
      w.id = id ∧ (r.store.history id).map (·.version) = List.range' 1 w.version ∧
      (∀ rev ∈ r.store.history id, ∃ r',
        (rollbackWorkflow ctx w.id rev.version w.version).runOn supply' r =
            (.ok (w.restored rev supply'.now.1), supply'.now.2, r') ∧
          RolledBack r ctx w (w.restored rev supply'.now.1) r') ∧
      ∀ v, (∀ rev ∈ r.store.history id, rev.version ≠ v) →
        (rollbackWorkflow ctx w.id v w.version).runOn supply' r =
          (.error (.noRevision w.id v), supply', r) := by
  intro r id w hw ctx hctx supply'
  obtain ⟨hrows, hpasts, hchronicled⟩ := reached_written hereditary_canonical e calls supply turns
  obtain ⟨rfl, hrec⟩ := hchronicled.recorded hw
  have hcanonical : w.Canonical := hrows _ w hw
  have hversion : 1 ≤ w.version := (hrec.mem_version (List.mem_of_getLast? hrec.latest)).1
  refine ⟨rfl, hrec.versions, fun rev hrev => ?_, fun v hmissing => ?_⟩
  · obtain ⟨past, hpast, rfl⟩ := hpasts w.id rev hrev
    have hnext : (w.restored past.revision supply'.now.1).Canonical := hpast.restored hcanonical _
    have hread : readRevision ctx w.id past.revision.version (supply', r) =
        (.ok past.revision, supply', r) := by
      rw [readRevision, Call.asks_apply, hrec.getRevision hctx hw hrev]
    have hid : (w.restored past.revision supply'.now.1).id = w.id := rfl
    refine ⟨_, ?_, rolledBack_write (r := r) hctx hchronicled hw hid rfl⟩
    rw [Call.runOn, rollbackWorkflow_apply hctx hversion hw hcanonical.key,
      Call.bind_apply_ok hread]
    exact updateWorkflow_apply hctx hversion hw hcanonical.key (hpast.applyTo w _) hnext
  · have hread : readRevision ctx w.id v (supply', r) =
        (.error (.noRevision w.id v), supply', r) := by
      rw [readRevision, Call.asks_apply, Store.getRevision_of_missing hctx hmissing]
      rfl
    rw [Call.runOn, rollbackWorkflow_apply hctx hversion hw hcanonical.key,
      Call.bind_apply_error hread]

def republished : Runtime :=
  { reached .empty
      [(.empty, .createWorkflow review), (.empty, .updateWorkflow "review"
        { Update.none with definition := some ⟨"draft", [⟨"publish", "draft", "second", ""⟩]⟩ } 1)]
      ⟨⟨0, 0⟩, 0⟩
      [.call 0, .call 0, .call 0, .call 1, .call 1, .call 1, .call 1] with
    engine := .empty, bound := true }

theorem rollback_restores_republished :
    ∃ w r', republished.store.workflows.get? "review" = some w ∧ w.version = 2 ∧
      ((rollbackWorkflow .empty "review" 1 2).runOn ⟨⟨0, 0⟩, 0⟩ republished).2.2 = r' ∧
      (r'.store.workflows.get? "review").map (fun v => (v.version, v.definition)) =
        some (3, review.definition) ∧
      ((rollbackWorkflow .empty "review" 7 2).runOn ⟨⟨0, 0⟩, 0⟩ republished).1.toOption = none := by
  have hstored : (republished.store.workflows.get? "review").map (fun w => (w.id, w.version)) =
      some ("review", 2) := by decide
  obtain ⟨w, hw, hfacts⟩ := Option.map_eq_some_iff.1 hstored
  obtain ⟨hid, hversion⟩ := Prod.mk.inj hfacts
  have hrev : ∃ rev ∈ republished.store.history "review", rev.version = 1 ∧
      rev.definition = review.definition := by decide +kernel
  obtain ⟨rev, hrev, hfirst, hdefinition⟩ := hrev
  obtain ⟨-, -, hrestores, hrefuses⟩ := rollback_restores _ _ _ _ _ _ "review" w hw .empty rfl
    ⟨⟨0, 0⟩, 0⟩
  obtain ⟨r', hcall, hrolled⟩ := hrestores rev hrev
  have hrefused := hrefuses 7 (by
    have hnone : ∀ rev ∈ republished.store.history "review", rev.version ≠ 7 := by decide
    exact hnone)
  rw [hid, hversion] at hrefused
  rw [hid, hversion, hfirst] at hcall
  refine ⟨w, r', hw, hversion, congrArg (·.2.2) hcall, ?_, congrArg (·.1.toOption) hrefused⟩
  have hnext := hrolled.stored
  rw [hid] at hnext
  rw [hnext, Option.map_some, restored, hversion]
  exact congrArg (fun d => some (3, d)) hdefinition

end Runtime

end Backoffice.Workflow

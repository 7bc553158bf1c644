import Backoffice.Proofs.Workflow.Effects
import Backoffice.Proofs.Workflow.Revisions

namespace Backoffice

namespace Supply

theorem digit_of_mem_toDigits {c : Char} {n : Nat} (h : c ∈ Nat.toDigits 16 n) :
    ∃ k < 16, c = Nat.digitChar k := by
  induction n using Nat.strongRecOn with
  | _ n ih =>
    rw [Nat.toDigits_eq_if (by decide)] at h
    split at h
    · rename_i hn
      exact ⟨n, hn, List.mem_singleton.1 h⟩
    · rcases List.mem_append.1 h with h | h
      · exact ih (n / 16) (by omega) h
      · exact ⟨n % 16, by omega, List.mem_singleton.1 h⟩

theorem mem_hexText {c : Char} {width n : Nat} (h : c ∈ (hexText width n).toList) :
    ∃ k < 16, c = Nat.digitChar k := by
  rw [hexText, String.toList_ofList, List.mem_append] at h
  rcases h with h | h
  · exact ⟨0, by decide, (List.mem_replicate.1 h).2⟩
  · exact digit_of_mem_toDigits h

theorem isKey_hexText (width n : Nat) : Text.IsKey (hexText width n).toList := by
  have hdigits : ∀ k < 16, (Nat.digitChar k).toNat ∉ 0x130 :: Text.movedPoints ∧
      Text.isBlank (Nat.digitChar k) = false := by decide +kernel
  apply Text.isKey_of_settled
  · intro c hc
    obtain ⟨k, hk, rfl⟩ := mem_hexText hc
    exact Text.settled_of_not_mem (hdigits k hk).1
  · intro c hc
    obtain ⟨k, hk, rfl⟩ := mem_hexText hc
    exact (hdigits k hk).2

theorem isKey_identifier (n : Nat) : Text.IsKey (identifier n).toList := by
  have hmark : Text.Settled '-' ∧ Text.isBlank '-' = false :=
    ⟨Text.settled_of_not_mem (by decide +kernel), by decide⟩
  have hmiddle : Text.IsKey "0000-4000-8000".toList := by
    have hown : Text.key "0000-4000-8000" = "0000-4000-8000" := by decide
    have hkey := Text.isKey_key "0000-4000-8000"
    rwa [hown] at hkey
  have hjoined := (isKey_hexText 8 (n / Nat.pow 2 48 % Nat.pow 2 32)).append
    (hmiddle.append (isKey_hexText 12 (n % Nat.pow 2 48)) hmark.1 hmark.2) hmark.1 hmark.2
  simpa [identifier] using hjoined

end Supply

namespace Workflow

@[simp] theorem Transition.trimmed_trimmed (t : Transition) : t.trimmed.trimmed = t.trimmed := by
  simp [trimmed]

@[simp] theorem Definition.trimmed_trimmed (d : Definition) : d.trimmed.trimmed = d.trimmed := by
  simp [trimmed]

structure Sound (w : Workflow) : Prop where
  key : Text.key w.id = w.id
  named : w.id ≠ ""
  trimmed : w.definition.trimmed = w.definition
  valid : w.definition.validate = .ok ()

variable {w : Workflow}

theorem validate_iff : w.validate = .ok () ↔
    w.id ≠ "" ∧ Text.blank w.name = false ∧ w.definition.validate = .ok () := by
  constructor
  · intro h
    obtain ⟨hid, h⟩ := refuse_eq_ok.1 h
    obtain ⟨hname, h⟩ := refuse_eq_ok.1 h
    exact ⟨by simpa using hid, by simpa using hname, h⟩
  · rintro ⟨hid, hname, h⟩
    exact refuse_eq_ok.2 ⟨by simpa using hid, refuse_eq_ok.2 ⟨by simpa using hname, h⟩⟩

theorem validate_eq_ok (h : w.validate = .ok ()) :
    w.id ≠ "" ∧ w.definition.validate = .ok () :=
  ⟨(validate_iff.1 h).1, (validate_iff.1 h).2.2⟩

theorem Draft.key_workflow (d : Draft) (now : Instant) {fresh : String}
    (hfresh : Text.key fresh = fresh) :
    Text.key (d.workflow now fresh).id = (d.workflow now fresh).id := by
  cases hid : d.id.bind Text.nonBlank with
  | none => simpa only [Draft.workflow, hid] using hfresh
  | some id => simp only [Draft.workflow, hid, Text.key_key]

theorem Draft.sound {d : Draft} {now : Instant} {n : Nat}
    (h : (d.workflow now (Supply.identifier n)).validate = .ok ()) :
    (d.workflow now (Supply.identifier n)).Sound where
  key := d.key_workflow now (Text.key_of_isKey (Supply.isKey_identifier n))
  named := (validate_eq_ok h).1
  trimmed := Definition.trimmed_trimmed _
  valid := (validate_eq_ok h).2

theorem Update.sound (u : Update) {now : Instant} (hw : w.Sound)
    (h : (u.applyTo now w).validate = .ok ()) : (u.applyTo now w).Sound where
  key := hw.key
  named := hw.named
  trimmed := by
    cases hd : u.definition with
    | none => simpa only [Update.applyTo, hd] using hw.trimmed
    | some d => simp only [Update.applyTo, hd, Definition.trimmed_trimmed]
  valid := (validate_eq_ok h).2

theorem Sound.stamped (hw : w.Sound) (version : Nat) (createdAt : Instant) :
    { w with version, createdAt }.Sound :=
  ⟨hw.key, hw.named, hw.trimmed, hw.valid⟩

namespace Engine

def put (e : Engine) (w : Workflow) : Engine :=
  ⟨e.definitions.set w.id w.definition⟩

theorem register_of_sound (e : Engine) (hw : w.Sound) :
    e.register w.id w.definition = .ok (e.put w) := by
  simp [register, put, hw.key, hw.named, hw.trimmed, hw.valid, bind, Except.bind]

theorem get?_foldl_put (e : Engine) (ws : List Workflow) (id : String) :
    (ws.foldl put e).definitions.get? id =
      ((ws.filter (·.id == id)).getLast?.map (·.definition)).or (e.definitions.get? id) := by
  induction ws generalizing e with
  | nil => rfl
  | cons w ws ih =>
    rw [List.foldl_cons, ih, put, Dict.get?_set]
    by_cases hid : w.id = id
    · rw [if_pos hid.symm, List.filter_cons_of_pos (by simpa using hid), List.getLast?_cons]
      cases (ws.filter (·.id == id)).getLast? <;> rfl
    · rw [if_neg (Ne.symm hid), List.filter_cons_of_neg (by simpa using hid)]

theorem refuses {e : Engine} {id : String} (h : e.definitions.get? id = none) {ctx : Context}
    (hctx : ctx.ensureActive = .ok ()) {req : TransitionRequest}
    (hreq : Text.key req.entityType = id) (supply : Supply) :
    e.transition ctx req supply = .error (.noWorkflow req.entityType) := by
  have hnone : e.definition? req.entityType = none := by
    rw [definition?, hreq, h]
  simp [transition, fire, require, hctx, hnone, bind, Except.bind]

end Engine

def Store.Sound (s : Store) : Prop := ∀ id w, s.workflows.get? id = some w → w.Sound

theorem Store.sound_empty : Store.Sound .empty := fun _ _ h => by cases h

theorem Store.Sound.write {s : Store} (hs : s.Sound) (hw : w.Sound) : (s.write w).Sound := by
  intro id v hv
  rw [Store.get?_write] at hv
  split at hv
  · cases hv
    exact hw
  · exact hs id v hv

def Runtime.told (r : Runtime) (w : Workflow) : Runtime :=
  if w.isActive && r.bound then { r with engine := r.engine.put w } else r

theorem Runtime.follow_apply (hw : w.Sound) (supply : Supply) (r : Runtime) :
    follow w (supply, r) = (.ok (), supply, r.told w) := by
  rw [follow, Call.update_apply, told]
  dsimp only
  by_cases hc : w.isActive && r.bound
  · rw [if_pos hc, if_pos hc, Engine.register_of_sound r.engine hw]
    rfl
  · rw [if_neg hc, if_neg hc]

theorem Runtime.register_apply (hw : w.Sound) (supply : Supply) (r : Runtime) :
    register w (supply, r) = (.ok (), supply, { r with engine := r.engine.put w }) := by
  rw [register, Call.update_apply]
  dsimp only
  rw [Engine.register_of_sound r.engine hw]
  rfl

end Workflow

end Backoffice

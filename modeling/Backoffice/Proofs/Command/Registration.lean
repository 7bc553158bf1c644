import Backoffice.Proofs.Command.Dispatch

namespace Backoffice.Command

variable {b b' : Bus} {t : Topic} {h : Handler} {f : Fault}

namespace Bus

theorem unhandled_of_register (hb : b.register t h false = .ok b') :
    (b.handlers t.isQuery).get? t.label = none := by
  have hnew := (refuse_eq_ok.1 hb).1
  simpa [Dict.contains] using hnew

theorem handled_of_register (hb : b.register t h false = .error f) :
    (b.handlers t.isQuery).contains t.label = true := by
  unfold register at hb
  rcases refuse_eq_error.1 hb with ⟨htaken, -⟩ | ⟨-, hb⟩
  · simpa using htaken
  · split at hb <;> cases hb

theorem refused_of_bind {name : String} (hb : b.bind name t false = .error f) :
    Text.trim name = "" ∨ b.routes.contains (Text.trim name) = true := by
  unfold bind at hb
  rcases refuse_eq_error.1 hb with ⟨hempty, -⟩ | ⟨-, hb⟩
  · exact .inl (beq_iff_eq.1 hempty)
  · rcases refuse_eq_error.1 hb with ⟨htaken, -⟩ | ⟨-, hb⟩
    · exact .inr (by simpa using htaken)
    · cases hb

theorem update_extends {f : Bus → Except Fault Bus} (hf : ∀ b b', f b = .ok b' → b.Extends b')
    (s : Supply × Bus) :
    s.2.Extends (Call.update f s).2.2 ∧
      ∀ e, (Call.update f s).1 = .error e → (Call.update f s).2 = s := by
  rw [Call.update_apply]
  split
  · rename_i b' hb
    exact ⟨hf _ _ hb, fun e he => by cases he⟩
  · exact ⟨.refl _, fun _ _ => rfl⟩

theorem registerNamed_apply (name : String) (t : Topic) (h : Handler) (s : Supply × Bus) :
    registerNamed name t h s = match s.2.register t h false with
      | .error e => (.error e, s)
      | .ok b => match b.bind name t false with
        | .error e => (.error e, s.1, b)
        | .ok b' => (.ok (), s.1, b') := by
  rw [registerNamed, Call.bind_apply, Call.update_apply]
  cases s.2.register t h false with
  | error e => rfl
  | ok b =>
    change Call.update _ (s.1, b) = _
    rw [Call.update_apply]
    dsimp only
    cases b.bind name t false <;> rfl

end Bus

/-- A call that registers a handler for a kind of message, binds a name to a kind, or does both. It
replaces nothing. -/
inductive Registration where
  | handler (t : Topic) (h : Handler)
  | name (name : String) (t : Topic)
  | named (name : String) (t : Topic) (h : Handler)

namespace Registration

def call : Registration → Call Bus Unit
  | handler t h => Call.update fun b => b.register t h false
  | name n t => Call.update fun b => b.bind n t false
  | named n t h => Bus.registerNamed n t h

/-- Of a registration by name the handler was accepted and the name refused: the handler is new, and
nothing else. -/
structure Halved (b b' : Bus) (name : String) (t : Topic) (h : Handler) : Prop where
  unhandled : (b.handlers t.isQuery).get? t.label = none
  refused : Text.trim name = "" ∨ b.routes.contains (Text.trim name) = true
  handlers : ∀ isQuery label, (b'.handlers isQuery).get? label =
    if isQuery = t.isQuery ∧ label = t.label then some h else (b.handlers isQuery).get? label
  routes : b'.routes = b.routes

theorem halved_of_bind {name : String} (hb : b.register t h false = .ok b')
    (hname : b'.bind name t false = .error f) : Halved b b' name t h where
  unhandled := Bus.unhandled_of_register hb
  refused := Bus.routes_register hb ▸ Bus.refused_of_bind hname
  handlers := Bus.handlers_register hb
  routes := Bus.routes_register hb

/-- A registration changes nothing that was there. If it fails, it leaves all as it was, unless it
brought the first handler of a kind together with a name that was refused: then the handler stays. -/
theorem failed_registration (r : Registration) (s : Supply × Bus) :
    s.2.Extends (r.call s).2.2 ∧
      ∀ f, (r.call s).1 = .error f →
        ((r.call s).2 = s ∧
          ∀ name t h, r = named name t h → (s.2.handlers t.isQuery).contains t.label = true) ∨
        ∃ name t h, r = named name t h ∧ (r.call s).2.1 = s.1 ∧
          Halved s.2 (r.call s).2.2 name t h := by
  cases r with
  | handler t h =>
    obtain ⟨hext, hfailed⟩ := Bus.update_extends (fun _ _ => Bus.extends_register (t := t) (h := h)) s
    exact ⟨hext, fun f hf => .inl ⟨hfailed f hf, nofun⟩⟩
  | name n t =>
    have hbind : ∀ b b' : Bus, b.bind n t false = .ok b' → b.Extends b' :=
      fun _ _ hb => (Bus.bind_eq_ok hb).1
    obtain ⟨hext, hfailed⟩ := Bus.update_extends hbind s
    exact ⟨hext, fun f hf => .inl ⟨hfailed f hf, nofun⟩⟩
  | named n t h =>
    simp only [call, Bus.registerNamed_apply]
    cases hhandler : s.2.register t h false with
    | error e =>
      refine ⟨.refl _, fun _ _ => .inl ⟨rfl, ?_⟩⟩
      rintro _ _ _ ⟨⟩
      exact Bus.handled_of_register hhandler
    | ok b =>
      have hext : s.2.Extends b := Bus.extends_register hhandler
      dsimp only
      cases hname : b.bind n t false with
      | error e =>
        exact ⟨hext, fun _ _ => .inr ⟨n, t, h, rfl, rfl, halved_of_bind hhandler hname⟩⟩
      | ok b' =>
        refine ⟨hext.trans (Bus.bind_eq_ok hname).1, fun f hf => ?_⟩
        cases hf

def echo : Registration :=
  named "echo" ⟨"Echo", true, fun v => some (.host v)⟩ (.host fun _ _ v => pure (some v))

def occupied : Bus := { Bus.empty with routes := .ofList [("echo", ⟨"Bump", false, fun _ => none⟩)] }

theorem failed_registration_echo :
    (echo.call (⟨⟨0, 0⟩, 0⟩, occupied)).1 = .error (.alreadyExists "command" "echo") ∧
      ∃ name t h, echo = named name t h ∧
        Halved occupied (echo.call (⟨⟨0, 0⟩, 0⟩, occupied)).2.2 name t h := by
  have hfailed : (echo.call (⟨⟨0, 0⟩, 0⟩, occupied)).1 = .error (.alreadyExists "command" "echo") :=
    rfl
  refine ⟨hfailed, ?_⟩
  rcases (failed_registration echo (⟨⟨0, 0⟩, 0⟩, occupied)).2 _ hfailed with
    ⟨-, hhandled⟩ | ⟨name, t, h, hecho, -, hhalved⟩
  · exact absurd (hhandled _ _ _ rfl) (by decide +kernel)
  · exact ⟨name, t, h, hecho, hhalved⟩

/-- A handler stays on the bus although its registration fails, and keeps the kind of message from
being registered again. -/
theorem handler_outlives_registration :
    let s := echo.call (⟨⟨0, 0⟩, 0⟩, occupied)
    s.1 = .error (.alreadyExists "command" "echo") ∧
      occupied.queries.contains "Echo" = false ∧ s.2.2.queries.contains "Echo" = true ∧
      (echo.call s.2).1 = .error (.alreadyExists "query handler" "Echo") := by
  refine ⟨rfl, by decide +kernel, by decide +kernel, rfl⟩

end Registration

end Backoffice.Command

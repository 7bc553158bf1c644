import Backoffice.Command.Exchange
import Backoffice.Proofs.Assignment.Answers

namespace Backoffice

theorem Assignment.Queue.Verb.trim_name (v : Verb) : Text.trim v.name = v.name := by
  cases v with
  | create | list => decide +kernel
  | single op | bulk op => cases op <;> decide +kernel

theorem Assignment.Queue.Verb.name_ne_empty (v : Verb) : v.name ≠ "" := by
  cases v with
  | create | list => decide
  | single op | bulk op => cases op <;> decide

theorem Assignment.Queue.Verb.mem_all (v : Verb) : v ∈ Verb.all := by
  cases v with
  | create | list => decide
  | single op | bulk op => cases op <;> decide

theorem Assignment.Queue.Verb.name_injective : Function.Injective Verb.name := by
  have hall : ∀ v ∈ Verb.all, ∀ w ∈ Verb.all, v.name = w.name → v = w := by decide +kernel
  exact fun v w => hall v v.mem_all w w.mem_all

namespace Command

open Assignment.Queue (Answer Ready Told Verb)

namespace Bus

variable {b b' : Bus} {t : Topic} {h : Handler}

structure Extends (b b' : Bus) : Prop where
  handlers : ∀ isQuery label h, (b.handlers isQuery).get? label = some h →
    (b'.handlers isQuery).get? label = some h
  routes : ∀ name t, b.routes.get? name = some t → b'.routes.get? name = some t

theorem Extends.refl (b : Bus) : b.Extends b := ⟨fun _ _ _ h => h, fun _ _ h => h⟩

theorem Extends.trans {b'' : Bus} (h : b.Extends b') (h' : b'.Extends b'') : b.Extends b'' where
  handlers isQuery label hd hb := h'.handlers isQuery label hd (h.handlers isQuery label hd hb)
  routes name t hb := h'.routes name t (h.routes name t hb)

theorem handlers_register (hb : b.register t h false = .ok b') (isQuery : Bool) (label : String) :
    (b'.handlers isQuery).get? label =
      if isQuery = t.isQuery ∧ label = t.label then some h
      else (b.handlers isQuery).get? label := by
  obtain ⟨-, hb⟩ := refuse_eq_ok.1 hb
  split at hb <;> cases hb <;> cases isQuery <;> simp_all [handlers, Dict.get?_set]

theorem routes_register (hb : b.register t h false = .ok b') : b'.routes = b.routes := by
  obtain ⟨-, hb⟩ := refuse_eq_ok.1 hb
  split at hb <;> cases hb <;> rfl

theorem extends_register (hb : b.register t h false = .ok b') : b.Extends b' where
  handlers isQuery label hd hget := by
    rw [handlers_register hb]
    split
    · rename_i hsame
      obtain ⟨rfl, rfl⟩ := hsame
      have hnew := (refuse_eq_ok.1 hb).1
      simp [Dict.contains, hget] at hnew
    · exact hget
  routes name t' hget := by rwa [routes_register hb]

theorem bind_eq_ok {name : String} (hb : b.bind name t false = .ok b') :
    b.Extends b' ∧ b'.routes.get? (Text.trim name) = some t := by
  obtain ⟨-, hb⟩ := refuse_eq_ok.1 hb
  obtain ⟨hnew, hb⟩ := refuse_eq_ok.1 hb
  cases hb
  refine ⟨⟨fun _ _ _ hget => hget, fun name' t' hget => ?_⟩, by simp⟩
  rw [Dict.get?_set]
  split
  · rename_i hname
    simp [Dict.contains, ← hname, hget] at hnew
  · exact hget

structure Serves (b : Bus) (name : String) (t : Topic) (h : Handler) : Prop where
  route : b.routes.get? name = some t
  handler : (b.handlers t.isQuery).get? t.label = some h

theorem Serves.extend {name : String} (hb : b.Serves name t h) (hext : b.Extends b') :
    b'.Serves name t h := ⟨hext.routes _ _ hb.route, hext.handlers _ _ _ hb.handler⟩

theorem Serves.route_eq {name : String} (hb : b.Serves name t h) : b.route name = .ok t := by
  rw [Bus.route, hb.route]

theorem Serves.handler_eq {name : String} (hb : b.Serves name t h) (asked : String) :
    b.handler t asked = .ok h := by
  rw [Bus.handler, hb.handler]

theorem registerNamed_eq_ok {name : String} {u : Unit} {s s' : Supply × Bus}
    (hrun : registerNamed name t h s = (.ok u, s')) :
    s.2.Extends s'.2 ∧ s'.2.Serves (Text.trim name) t h := by
  obtain ⟨_, s₁, hregister, hbind⟩ := Call.bind_apply_eq_ok.1 hrun
  rw [Call.update_apply] at hregister hbind
  split at hregister <;> cases hregister
  split at hbind <;> cases hbind
  rename_i b₁ hregister _ b₂ hbind
  obtain ⟨hext, hroute⟩ := bind_eq_ok hbind
  refine ⟨(extends_register hregister).trans hext, hroute, ?_⟩
  exact hext.handlers _ _ _ (by simp [handlers_register hregister])

theorem register_of_free (hfree : (b.handlers t.isQuery).get? t.label = none) :
    ∃ b', b.register t h false = .ok b' := by
  have hnew : (b.handlers t.isQuery).contains t.label = false := by simp [Dict.contains, hfree]
  cases hquery : t.isQuery <;> rw [hquery] at hnew <;> simp [register, hnew, hquery]

theorem registerNamed_of_free {name : String} {s : Supply × Bus}
    (htrim : Text.trim name = name) (hname : name ≠ "") (hroute : s.2.routes.get? name = none)
    (hhandler : (s.2.handlers t.isQuery).get? t.label = none) :
    ∃ b', registerNamed name t h s = (.ok (), s.1, b') ∧
      (∀ other, b'.routes.get? other = if other = name then some t else s.2.routes.get? other) ∧
      ∀ isQuery label, (b'.handlers isQuery).get? label =
        if isQuery = t.isQuery ∧ label = t.label then some h
        else (s.2.handlers isQuery).get? label := by
  obtain ⟨b₁, hregister⟩ := register_of_free (h := h) hhandler
  have hbind : b₁.bind name t false = .ok { b₁ with routes := b₁.routes.set name t } := by
    simp [Bus.bind, htrim, hname, Dict.contains, routes_register hregister, hroute]
  have hhandlers := handlers_register hregister
  refine ⟨{ b₁ with routes := b₁.routes.set name t }, ?_, ?_, hhandlers⟩
  · simp [registerNamed, Call.bind_apply, Call.update_apply, hregister, hbind]
  · intro other
    rw [Dict.get?_set, routes_register hregister]

end Bus

theorem serves_of_registerQueue {label : Verb → String} {s : Supply × Bus}
    (h : (registerQueue label s).1 = .ok ()) (v : Verb) :
    (registerQueue label s).2.2.Serves v.name (queueTopic label v) .queue := by
  suffices hall : ∀ (vs : List Verb) (s s' : Supply × Bus),
      (vs.forM fun v => Bus.registerNamed v.name (queueTopic label v) .queue) s = (.ok (), s') →
        s.2.Extends s'.2 ∧ ∀ v ∈ vs, s'.2.Serves v.name (queueTopic label v) .queue from
    (hall _ s _ (Prod.ext h rfl)).2 v v.mem_all
  intro vs
  induction vs with
  | nil =>
    intro s s' hrun
    cases hrun
    exact ⟨.refl _, by simp⟩
  | cons v vs ih =>
    intro s s' hrun
    obtain ⟨_, s₁, hfirst, hrest⟩ := Call.bind_apply_eq_ok.1 hrun
    obtain ⟨hext, hserves⟩ := Bus.registerNamed_eq_ok hfirst
    obtain ⟨hext', hall⟩ := ih s₁ s' hrest
    rw [v.trim_name] at hserves
    refine ⟨hext.trans hext', fun w hw => ?_⟩
    rcases List.mem_cons.1 hw with rfl | hw
    · exact hserves.extend hext'
    · exact hall w hw

theorem registerQueue_ok {label : Verb → String} (hlabel : Function.Injective label)
    {s : Supply × Bus} (hnames : ∀ v : Verb, s.2.routes.get? v.name = none)
    (hlabels : ∀ v, s.2.queries.get? (label v) = none) : (registerQueue label s).1 = .ok () := by
  suffices hall : ∀ (vs : List Verb) (s : Supply × Bus), vs.Nodup →
      (∀ v ∈ vs, s.2.routes.get? v.name = none ∧ s.2.queries.get? (label v) = none) →
        ((vs.forM fun v => Bus.registerNamed v.name (queueTopic label v) .queue) s).1 = .ok () from
    hall _ s (by decide) fun v _ => ⟨hnames v, hlabels v⟩
  intro vs
  induction vs with
  | nil => exact fun s _ _ => rfl
  | cons v vs ih =>
    intro s hnodup hfree
    obtain ⟨hname, hfreeLabel⟩ := hfree v List.mem_cons_self
    obtain ⟨b', hfirst, hroutes, hhandlers⟩ := Bus.registerNamed_of_free (t := queueTopic label v)
      (h := .queue) v.trim_name v.name_ne_empty hname hfreeLabel
    obtain ⟨hnotin, hnodup⟩ := List.nodup_cons.1 hnodup
    rw [List.forM, Call.bind_apply_ok hfirst]
    refine ih _ hnodup fun w hw => ?_
    have hne : w ≠ v := fun h => hnotin (h ▸ hw)
    obtain ⟨hw, hwlabel⟩ := hfree w (List.mem_cons_of_mem v hw)
    refine ⟨?_, ?_⟩
    · rw [hroutes, if_neg (hne ∘ @Verb.name_injective _ _), hw]
    · have hget := hhandlers true (label w)
      rw [if_neg fun h => hne (hlabel h.2)] at hget
      exact hget.trans hwlabel

namespace Exchange

variable {ctx : Context} {x : Services} {supply : Supply}

theorem framed_apply {α : Type} (name : String) (c : Call Stores α) (s : Supply × Stores) :
    framed name c s = match c s with
      | (.ok a, s') => (.ok a, s')
      | (.error f, s') => (.error (.inCommand name f), s') := by
  have honce : framed name c s = framed name (fun _ => c s) s := rfl
  rw [honce]
  generalize c s = outcome
  obtain ⟨f | a, s'⟩ := outcome <;> rfl

def carriedOut (ctx : Context) (c : Assignment.Queue.Command) (name : String) :
    Call Services Answer :=
  Services.onStores (framed name (Stores.onAssignments (Assignment.Queue.run ctx c)))

theorem carriedOut_apply (c : Assignment.Queue.Command) (name : String) :
    carriedOut ctx c name (supply, x) =
      match Assignment.Queue.run ctx c (supply, x.assignments) with
      | (.ok a, supply', rows) => (.ok a, supply', { x with assignments := rows })
      | (.error f, supply', rows) =>
        (.error (.inCommand name f), supply', { x with assignments := rows }) := by
  rw [carriedOut, Services.onStores, Call.within_apply, framed_apply, Stores.onAssignments,
    Call.within_apply]
  generalize Assignment.Queue.run ctx c (supply, x.assignments) = outcome
  obtain ⟨f | a, supply', rows⟩ := outcome <;> rfl

theorem framed_react (name : String) (dispatch : Dispatch) (c : Assignment.Queue.Command)
    (s : Supply × Services) :
    Services.onStores (framed name (react dispatch ctx .queue (.queue c))) s =
      (Result.queue <$> carriedOut ctx c name) s := by
  simp only [react, carriedOut, Services.onStores, map_eq_pure_bind, Call.within_apply, framed_apply,
    Call.bind_apply]
  generalize Stores.onAssignments (Assignment.Queue.run ctx c) (s.1, s.2.toStores) = outcome
  obtain ⟨f | a, s'⟩ := outcome <;> rfl

section

variable {c : Assignment.Queue.Command} {label : Verb → String}

theorem send_queue (hactive : ctx.ensureActive = .ok ())
    (hx : x.bus.Serves c.verb.name (queueTopic label c.verb) .queue) :
    send ctx (queueTopic label c.verb) (.queue c) (supply, x) =
      (Result.queue <$> carriedOut ctx c (label c.verb)) (supply, x) := by
  simp only [send, Call.bind_apply, Call.ofExcept_apply, hactive, Call.state_apply, hx.handler_eq,
    framed_react]
  rfl

theorem dispatchByName_queue (hactive : ctx.ensureActive = .ok ()) (hc : c.Legible)
    (hx : x.bus.Serves c.verb.name (queueTopic label c.verb) .queue) {payload : Record}
    (hpayload : c.toJson = .obj payload) :
    dispatchByName ctx c.verb.name payload (supply, x) =
      ((some ·.toJson) <$> carriedOut ctx c c.verb.name) (supply, x) := by
  have hread : (queueTopic label c.verb).read (.obj payload) = some (.queue c) := by
    rw [← hpayload]
    simp [queueTopic, Assignment.Queue.Command.decode_toJson hc]
  change Services.onStores (deliver x.bus _ ctx c.verb.name payload) (supply, x) = _
  have hdelivered (dispatch : Dispatch) :
      Services.onStores (deliver x.bus dispatch ctx c.verb.name payload) (supply, x) =
        (Result.toJson? <$> Services.onStores
          (framed c.verb.name (react dispatch ctx .queue (.queue c)))) (supply, x) := by
    simp only [Services.onStores, deliver, Call.within_apply, Call.bind_apply, Call.ofExcept_apply,
      hactive, hx.route_eq, hx.handler_eq, hread, map_eq_pure_bind]
    generalize framed c.verb.name (react dispatch ctx .queue (.queue c)) (supply, x.toStores) = outcome
    obtain ⟨f | a, s'⟩ := outcome <;> rfl
  rw [hdelivered, map_eq_pure_bind, map_eq_pure_bind, Call.bind_apply, Call.bind_apply, framed_react,
    map_eq_pure_bind, Call.bind_apply]
  generalize carriedOut ctx c c.verb.name (supply, x) = outcome
  obtain ⟨f | a, s'⟩ := outcome <;> rfl

end

inductive Agree :
    Except Fault Result → Except Fault (Option Json) → Except Fault (Option Told) → Prop
  | answered (a : Answer) : Agree (.ok (.queue a)) (.ok (some a.toJson)) (.ok (some a.told))
  | failed {f g : Fault} : g.root = f.root → Agree (.error f) (.error g) (.error g)

/-- The ways to dispatch agree in what they answer, and leave the same supply and state. -/
structure Agreement (sent : Except Fault Result × Supply × Services)
    (named : Except Fault (Option Json) × Supply × Services)
    (decoded : Except Fault (Option Told) × Supply × Services) : Prop where
  outcome : Agree sent.1 named.1 decoded.1
  named : named.2 = sent.2
  decoded : decoded.2 = sent.2

/-- Where the queue was registered, the ways to dispatch a command agree, so long as the times it
meets are read back from their texts and the versions it answers keep to their 64 bits. -/
theorem dispatch_agrees {label : Verb → String} {s : Supply × Bus}
    (hbus : (registerQueue label s).1 = .ok ()) (hx : x.bus = (registerQueue label s).2.2)
    (ctx : Context) {c : Assignment.Queue.Command} (hc : c.Legible)
    (hready : Ready c.readings supply x.assignments)
    (hversions : ∀ a, (Assignment.Queue.run ctx c (supply, x.assignments)).1 = .ok a →
      ∀ row ∈ a.assignments, row.version < UInt64.size) :
    ∃ payload, c.toJson = .obj payload ∧
      Agreement (send ctx (queueTopic label c.verb) (.queue c) (supply, x))
        (dispatchByName ctx c.verb.name payload (supply, x))
        (dispatchInto ctx c.verb.decodeAnswer c.verb.name payload (supply, x)) := by
  obtain ⟨payload, hpayload⟩ := c.toJson_eq_obj
  refine ⟨payload, hpayload, ?_⟩
  have hserves := serves_of_registerQueue hbus c.verb
  rw [← hx] at hserves
  cases hactive : ctx.ensureActive with
  | error f =>
    have hcancelled : Call.ofExcept ctx.ensureActive (supply, x) = (.error f, supply, x) := by
      rw [hactive, Call.ofExcept_apply]
    have hnamed : dispatchByName ctx c.verb.name payload (supply, x) = (.error f, supply, x) := by
      change Services.onStores (deliver x.bus _ ctx c.verb.name payload) (supply, x) = _
      simp only [Services.onStores, Call.within_apply, deliver, Call.bind_apply, Call.ofExcept_apply,
        hactive]
    rw [send, Call.bind_apply_error hcancelled, dispatchInto, Call.bind_apply_error hnamed, hnamed]
    exact ⟨.failed rfl, rfl, rfl⟩
  | ok u =>
    rw [dispatchInto, Call.bind_apply, send_queue hactive hserves,
      dispatchByName_queue hactive hc hserves hpayload]
    simp only [map_eq_pure_bind, Call.bind_apply, carriedOut_apply]
    cases hrun : Assignment.Queue.run ctx c (supply, x.assignments) with
    | mk r t =>
      cases r with
      | error f => exact ⟨.failed rfl, rfl, rfl⟩
      | ok a =>
        rw [hrun] at hversions
        simp only [Call.pure_apply, Assignment.Queue.run_told hc hready hrun (hversions a rfl)]
        exact ⟨.answered a, rfl, rfl⟩

def waiting : Assignment.Store := Assignment.Store.empty.write <| Assignment.Draft.assignment
  ⟨some "a", "g", "post", "r", "en", "de", none, none, .normal, none, ""⟩ "ed" ⟨0, 0⟩ ""

def bulkClaim : Assignment.Queue.Command :=
  .bulk .claim ⟨[⟨"a", 1⟩, ⟨"b", 1⟩], "ann", none, none⟩

theorem dispatch_agrees_bulk_claim :
    let x : Services :=
      ⟨{ Stores.empty with assignments := waiting }, (registerQueue Verb.name (⟨⟨0, 0⟩, 0⟩, .empty)).2.2⟩
    ∃ payload, bulkClaim.toJson = .obj payload ∧
      Agreement
        (send .system (queueTopic Verb.name bulkClaim.verb) (.queue bulkClaim) (⟨⟨60, 5⟩, 1⟩, x))
        (dispatchByName .system bulkClaim.verb.name payload (⟨⟨60, 5⟩, 1⟩, x))
        (dispatchInto .system bulkClaim.verb.decodeAnswer bulkClaim.verb.name payload
          (⟨⟨60, 5⟩, 1⟩, x)) := by
  intro x
  have hbus : (registerQueue Verb.name (⟨⟨0, 0⟩, 0⟩, .empty)).1 = .ok () :=
    registerQueue_ok Verb.name_injective (fun _ => rfl) fun _ => rfl
  have hx : ∀ b, Services.bus ⟨{ Stores.empty with assignments := waiting }, b⟩ = b := fun _ => rfl
  have hbulk : bulkClaim.Legible := by
    simp [bulkClaim, Assignment.Queue.Command.Legible, UInt64.size]
  have hready : Ready bulkClaim.readings ⟨⟨60, 5⟩, 1⟩ waiting := by
    refine ⟨by decide +kernel, fun id a ha => ?_⟩
    rw [waiting, Assignment.Store.get?_write] at ha
    split at ha <;> cases ha
    refine ⟨rfl, by decide, ?_⟩
    simp [Assignment.stamps, Assignment.Draft.assignment]
  have hversions : ∀ a, (Assignment.Queue.run .system bulkClaim (⟨⟨60, 5⟩, 1⟩, waiting)).1 = .ok a →
      ∀ row ∈ a.assignments, row.version < UInt64.size := by
    intro a ha
    have hrun : ∀ row ∈ (Answer.assignments <$> (Assignment.Queue.run .system bulkClaim
        (⟨⟨60, 5⟩, 1⟩, waiting)).1).toOption.getD [], row.version < UInt64.size := by decide +kernel
    rwa [ha] at hrun
  exact dispatch_agrees hbus (hx _) .system hbulk hready hversions

end Exchange

end Command

end Backoffice

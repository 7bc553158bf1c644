import Backoffice.Proofs.Office.Load
import Backoffice.Proofs.Office.Installation

/-!
What loading leaves on the dashboard and on the bus.

To set a module up is to register some things there, one after the other, and to do something that
neither looks there nor changes what is there (`Registers`). So what loading answers on other fixtures
is told by what the modules register (`load_answers`), and what a failed attempt leaves is what it
had registered so far (`load_error`).
-/

namespace Backoffice

open Installation (install_strict installAll installAll_append installAll_append_ok
  prefix_of_refused)

def Command.Puts (rs : List Installation) (c : Call Bus Unit) : Prop :=
  ∀ supply d b, (c (supply, b)).2.1 = supply ∧
    installAll rs (d, b) = ((c (supply, b)).1, d, (c (supply, b)).2.2)

namespace Command

variable {rs rs' : List Installation} {c : Call Bus Unit}

theorem puts_pure : Puts [] (pure ()) := fun _ _ _ => ⟨rfl, rfl⟩

theorem Puts.bind {c' : Call Bus Unit} (h : Puts rs c) (h' : Puts rs' c') :
    Puts (rs ++ rs') (c >>= fun _ => c') := by
  intro supply d b
  obtain ⟨hsupply, hfirst⟩ := h supply d b
  rw [installAll_append, hfirst, Call.bind_apply]
  rcases hrun : c (supply, b) with ⟨e | _, supply₁, b₁⟩
  · rw [hrun] at hsupply
    exact ⟨hsupply, rfl⟩
  · rw [hrun] at hsupply
    cases hsupply
    exact h' _ d b₁

theorem puts_update {e : Entry} {f : Bus → Except Fault Bus}
    (hf : ∀ d b, e.install (d, b) = (fun b => (d, b)) <$> f b) :
    Puts [⟨e, false⟩] (Call.update f) := by
  intro supply d b
  rw [Call.update_apply, installAll, install_strict, hf]
  dsimp only
  cases f b <;> exact ⟨rfl, rfl⟩

theorem puts_registerNamed (name : String) (t : Topic) (h : Handler) :
    Puts [⟨.handler t h false, false⟩, ⟨.name name t false, false⟩] (Bus.registerNamed name t h) := by
  refine Puts.bind (puts_update (e := .handler t h false) fun d b => ?_)
    (puts_update (e := .name name t false) fun d b => ?_)
  · unfold Entry.install
    dsimp only
    cases b.register t h false <;> rfl
  · unfold Entry.install
    dsimp only
    cases b.bind name t false <;> rfl

theorem puts_forM {α : Type} {f : α → Call Bus PUnit} {rs : α → List Installation}
    (hf : ∀ a, Puts (rs a) (f a)) (as : List α) : Puts (as.flatMap rs) (as.forM f) := by
  induction as with
  | nil => exact puts_pure
  | cons a as ih => exact (hf a).bind ih

def queueInstallations (label : Assignment.Queue.Verb → String) : List Installation :=
  Assignment.Queue.Verb.all.flatMap fun v =>
    [⟨.handler (queueTopic label v) .queue false, false⟩, ⟨.name v.name (queueTopic label v) false, false⟩]

theorem puts_registerQueue (label : Assignment.Queue.Verb → String) :
    Puts (queueInstallations label) (registerQueue label) := by
  refine puts_forM (fun v => ?_) Assignment.Queue.Verb.all
  exact puts_registerNamed v.name (queueTopic label v) .queue

end Command

namespace Office

open Call (bind_apply_ok bind_apply_eq_ok)

variable {α β : Type} {rs rs' : List Installation} {c : Call Office α} {f : α → Call Office β}
  {a : α} {e : Fault} {s t u : Supply × Office}

def fixtures (o : Office) : Fixtures := (o.dashboard, o.services.bus)

def withFixtures (o : Office) (x : Fixtures) : Office :=
  { o with dashboard := x.1, services := { o.services with bus := x.2 } }

structure Apart (c : Call Office α) : Prop where
  frame : ∀ supply o, (c (supply, o)).2.2.frame = o.frame
  fixtures : ∀ supply o x, c (supply, o.withFixtures x) =
    ((c (supply, o)).1, (c (supply, o)).2.1, (c (supply, o)).2.2.withFixtures x)

namespace Apart

theorem pure (a : α) : Apart (pure a) := ⟨fun _ _ => rfl, fun _ _ _ => rfl⟩

theorem bind (hc : Apart c) (hf : ∀ a, Apart (f a)) : Apart (c >>= f) where
  frame supply o := by
    have hframe := hc.frame supply o
    rw [Call.bind_apply]
    rcases hrun : c (supply, o) with ⟨_ | a, s⟩
    · rwa [hrun] at hframe
    · rw [hrun] at hframe
      exact ((hf a).frame s.1 s.2).trans hframe
  fixtures supply o x := by
    rw [Call.bind_apply, Call.bind_apply, hc.fixtures]
    rcases c (supply, o) with ⟨_ | a, s⟩
    · rfl
    · exact (hf a).fixtures s.1 s.2 x

theorem asks {f : Office → Except Fault α} (hf : ∀ o x, f (o.withFixtures x) = f o) :
    Apart (Call.asks f) where
  frame supply o := by rw [Call.asks_apply]
  fixtures supply o x := by rw [Call.asks_apply, Call.asks_apply, hf]

theorem ofExcept (r : Except Fault α) : Apart (Call.ofExcept r) := by
  cases r <;> exact ⟨fun _ _ => rfl, fun _ _ _ => rfl⟩

theorem reading {f : Office → Call Office α} (hf : ∀ o x, f (o.withFixtures x) = f o)
    (happ : ∀ o, Apart (f o)) : Apart (Call.state >>= f) where
  frame supply o := (happ o).frame supply o
  fixtures supply o x := by
    change f (o.withFixtures x) (supply, o.withFixtures x) = _
    rw [hf]
    exact (happ o).fixtures supply o x

theorem keeps (hc : Apart c) (s : Supply × Office) : (c s).2.2.fixtures = s.2.fixtures := by
  have h := hc.fixtures s.1 s.2 s.2.fixtures
  exact congrArg (fun s => s.2.2.fixtures) h

end Apart

theorem apart_note {m : Module} {line : String} : Apart (note m line) := by
  unfold note
  split
  · exact ⟨fun _ _ => rfl, fun _ _ _ => rfl⟩
  · exact .pure ()

theorem apart_onRuntime (c : Call Workflow.Runtime α) : Apart (onRuntime c) :=
  ⟨fun _ _ => rfl, fun _ _ _ => rfl⟩

theorem apart_onSite (c : Call Site α) : Apart (onSite c) := ⟨fun _ _ => rfl, fun _ _ _ => rfl⟩

theorem apart_mergeItems {ctx : Context} {items : List Menu.Item} : Apart (mergeItems ctx items) :=
  ⟨fun _ _ => rfl, fun _ _ _ => rfl⟩

theorem apart_reconcile {ctx : Context} : Apart (reconcile ctx) :=
  .bind (.asks fun _ _ => rfl) fun _ => .reading (fun _ _ => rfl) fun _ => apart_onSite _

/-- From `s`, on all fixtures, the call registers `rs`, and fails as soon as one is refused. Where none
is, it answers `r` and comes to `t`, but for the fixtures. -/
structure Registers (rs : List Installation) (c : Call Office α) (s : Supply × Office)
    (r : Except Fault α) (t : Supply × Office) : Prop where
  frame : t.2.frame = s.2.frame
  taken : ∀ {x y}, installAll rs x = (.ok (), y) →
    c (s.1, s.2.withFixtures x) = (r, t.1, t.2.withFixtures y)
  refused : ∀ {x e y}, installAll rs x = (.error e, y) →
    ∃ u, c (s.1, s.2.withFixtures x) = (.error e, u) ∧ u.2.fixtures = y

theorem registers_of_apart (hc : Apart c) {r : Except Fault α} (h : c s = (r, t)) :
    Registers [] c s r t where
  frame := by
    have hframe := hc.frame s.1 s.2
    rwa [h] at hframe
  taken hx := by
    cases hx
    rw [hc.fixtures, h]
  refused hx := by cases hx

theorem Registers.bind {r : Except Fault β} (h : Registers rs c s (.ok a) t)
    (h' : Registers rs' (f a) t r u) : Registers (rs ++ rs') (c >>= f) s r u where
  frame := h'.frame.trans h.frame
  taken {x y} hx := by
    rw [installAll_append] at hx
    split at hx
    · rename_i hfirst
      rw [bind_apply_ok (h.taken hfirst)]
      exact h'.taken hx
    · cases hx
  refused {x e y} hx := by
    rw [installAll_append] at hx
    split at hx
    · rename_i hfirst
      rw [bind_apply_ok (h.taken hfirst)]
      exact h'.refused hx
    · rename_i hfirst
      cases hx
      obtain ⟨u, hrun, hu⟩ := h.refused hfirst
      exact ⟨u, Call.bind_apply_error hrun f, hu⟩

theorem Registers.fails (h : Registers rs c s (.error e) t) :
    Registers rs (c >>= f) s (.error e) t where
  frame := h.frame
  taken hx := Call.bind_apply_error (h.taken hx) f
  refused hx := by
    obtain ⟨u, hrun, hu⟩ := h.refused hx
    exact ⟨u, Call.bind_apply_error hrun f, hu⟩

theorem Registers.after {r : Except Fault β} (hc : Apart c) (hfirst : c s = (.ok a, t))
    (h : Registers rs (f a) t r u) : Registers rs (c >>= f) s r u :=
  (registers_of_apart hc hfirst).bind h

theorem Registers.reading {f : Office → Call Office α} {r : Except Fault α}
    (hf : ∀ x, f (s.2.withFixtures x) = f s.2) (h : Registers rs (f s.2) s r t) :
    Registers rs (Call.state >>= f) s r t := by
  have hrun : ∀ x, (Call.state >>= f) (s.1, s.2.withFixtures x) = f s.2 (s.1, s.2.withFixtures x) := by
    intro x
    rw [← hf x]
    rfl
  refine ⟨h.frame, fun {x y} hx => ?_, fun {x e y} hx => ?_⟩
  · rw [hrun]
    exact h.taken hx
  · rw [hrun]
    exact h.refused hx

theorem Registers.map {r : Except Fault α} (h : Registers rs c s r t) (g : α → β) :
    Registers rs (c >>= fun a => pure (g a)) s (g <$> r) t := by
  cases r with
  | error e => exact h.fails
  | ok a =>
    rw [← List.append_nil rs]
    exact h.bind (registers_of_apart (.pure (g a)) rfl)

theorem Registers.before {r : Except Fault α} (h : Registers rs c s r t) (hf : ∀ a, Apart (f a)) :
    ∃ r' u, Registers rs (c >>= f) s r' u := by
  cases r with
  | error e => exact ⟨_, _, h.fails⟩
  | ok a =>
    refine ⟨(f a t).1, (f a t).2, ?_⟩
    rw [← List.append_nil rs]
    exact h.bind (registers_of_apart (hf a) rfl)

theorem Registers.run {r r' : Except Fault α} (h : Registers rs c s r t) (hrun : c s = (r', u)) :
    (installAll rs s.2.fixtures = (.ok (), u.2.fixtures) ∧ r' = r ∧
      u = (t.1, t.2.withFixtures u.2.fixtures)) ∨
    ∃ e, r' = .error e ∧ installAll rs s.2.fixtures = (.error e, u.2.fixtures) := by
  have hself : c (s.1, s.2.withFixtures s.2.fixtures) = (r', u) := hrun
  rcases hinstall : installAll rs s.2.fixtures with ⟨e | _, y⟩
  · obtain ⟨u', hfails, rfl⟩ := h.refused hinstall
    cases hself.symm.trans hfails
    exact .inr ⟨e, rfl, rfl⟩
  · cases hself.symm.trans (h.taken hinstall)
    exact .inl ⟨rfl, rfl, rfl⟩

theorem registers_of_run {r : Except Fault α} (hrun : ∀ x, c (s.1, s.2.withFixtures x) =
      ((installAll rs x).1 >>= fun _ => r, s.1, s.2.withFixtures (installAll rs x).2)) :
    Registers rs c s r s where
  frame := rfl
  taken hx := by
    rw [hrun, hx]
    rfl
  refused hx := by
    rw [hrun, hx]
    exact ⟨_, rfl, rfl⟩

theorem registers_registerWidget (w : Dashboard.Widget) :
    Registers [⟨.widget w, false⟩] (registerWidget w) s (.ok ()) s := by
  refine registers_of_run fun x => ?_
  rw [registerWidget, onDashboard, Call.atomic_apply, installAll, install_strict]
  dsimp only [withFixtures, Entry.install]
  cases x.1.register w <;> rfl

theorem registers_onBus {c : Call Command.Bus Unit} (h : Command.Puts rs c) :
    Registers rs (onBus c) s (.ok ()) s := by
  refine registers_of_run fun x => ?_
  obtain ⟨hsupply, hinstall⟩ := h s.1 x.1 x.2
  change ((c (s.1, x.2)).1, (c (s.1, x.2)).2.1, s.2.withFixtures (x.1, (c (s.1, x.2)).2.2)) = _
  rw [hsupply, hinstall]
  cases (c (s.1, x.2)).1 <;> rfl

end Office

namespace Module

variable {label : Assignment.Queue.Verb → String} {ctx : Context} {m : Module}

/-- Whatever else the code of the host does, if the module runs any, it goes about the dashboard and
the bus by registering only. -/
def Orderly (ctx : Context) (m : Module) : Prop :=
  ∀ run, m.setup = .host run → ∀ s, ∃ rs r t, Office.Registers rs (Office.onPremises (run ctx)) s r t

/-- What the module registers; in some state, if it runs code of the host. -/
def Brings (label : Assignment.Queue.Verb → String) (ctx : Context) (m : Module)
    (rs : List Installation) : Prop :=
  match m.setup with
  | .widget w => rs = [⟨.widget w, false⟩]
  | .queue w => rs = Command.queueInstallations label ++ [⟨.widget w, false⟩]
  | .workflows | .content => rs = []
  | .host run => ∃ s r t, Office.Registers rs (Office.onPremises (run ctx)) s r t

end Module

namespace Office

open Call (bind_apply_ok bind_apply_eq_ok)
open Backoffice.Module (Accepted Brings Orderly Sorted ids)

variable {ctx : Context} {locale : String} {m : Module} {s t : Supply × Office}

theorem registers_setUp (hhost : m.Orderly ctx) (s : Supply × Office) :
    ∃ rs, m.Brings s.2.queueLabel ctx rs ∧ ∃ r t, Registers rs (setUp ctx m) s r t := by
  have hnote : ∃ s', note m ("register " ++ m.manifest.id) s = (.ok (), s') ∧
      s'.2.queueLabel = s.2.queueLabel := by
    unfold note
    split <;> exact ⟨_, rfl, rfl⟩
  obtain ⟨s', hnoted, hlabel⟩ := hnote
  unfold setUp Module.Brings
  rw [← hlabel]
  cases hsetup : m.setup with
  | widget w => exact ⟨_, rfl, _, _, .after apart_note hnoted (registers_registerWidget w)⟩
  | workflows =>
    have happ := (apart_onRuntime (Workflow.Runtime.bindEngine ctx)).bind fun _ => .pure ()
    exact ⟨_, rfl, _, _, .after apart_note hnoted (registers_of_apart happ rfl)⟩
  | queue w =>
    refine ⟨_, rfl, .ok (), s', .after apart_note hnoted (.reading (fun _ => rfl) ?_)⟩
    exact (registers_onBus (Command.puts_registerQueue _)).bind (registers_registerWidget w)
  | content =>
    have happ : Apart (do let _ ← reconcile ctx) := apart_reconcile.bind fun _ => .pure ()
    exact ⟨_, rfl, _, _, .after apart_note hnoted (registers_of_apart happ rfl)⟩
  | host run =>
    obtain ⟨rs, r, t, hregisters⟩ := hhost run hsetup s'
    exact ⟨rs, ⟨s', r, t, hregisters⟩, r, t, .after apart_note hnoted hregisters⟩

theorem registers_introduce (hhost : m.Orderly ctx) (locale : String) (s : Supply × Office) :
    ∃ rs, m.Brings s.2.queueLabel ctx rs ∧ ∃ r t, Registers rs (introduce ctx locale m) s r t := by
  obtain ⟨rs, hbrings, r, t, hregisters⟩ := registers_setUp hhost s
  refine ⟨rs, hbrings, hregisters.before fun _ => ?_⟩
  exact apart_note.bind fun _ => .reading (fun _ _ => rfl) fun _ => .pure _

theorem loadAll_cons_apply (report : Module.Report) (m : Module) (rest : List Module)
    (s : Supply × Office) :
    loadAll ctx locale report (m :: rest) s =
      match ctx.ensureActive, m.skip? s.2.gate ctx report.skipped with
      | .error f, _ => (.error f, s)
      | .ok _, .error f => (.error f, s)
      | .ok _, .ok (some skipped) =>
        loadAll ctx locale { report with skipped := report.skipped ++ [skipped] } rest s
      | .ok _, .ok none => match introduce ctx locale m s with
        | (.error f, t) => (.error f, t)
        | (.ok items, t) =>
          match loadAll ctx locale { report with loaded := report.loaded ++ [m.id] } rest t with
          | (.error f, t) => (.error f, t)
          | (.ok (report, more), t) => (.ok (report, items ++ more), t) := by
  rw [loadAll_cons, Call.bind_apply, Call.ofExcept_apply]
  cases ctx.ensureActive with
  | error f => rfl
  | ok u =>
    dsimp only
    rw [Call.bind_apply, Call.asks_apply]
    rcases m.skip? s.2.gate ctx report.skipped with f | _ | skipped
    · rfl
    · dsimp only
      rw [Call.bind_apply]
      rcases introduce ctx locale m s with ⟨f | items, t⟩
      · rfl
      · dsimp only
        rw [Call.bind_apply]
        rcases loadAll ctx locale _ rest t with ⟨f | ⟨report, more⟩, t⟩ <;> rfl
    · rfl

theorem registers_loadAll {rest : List Module} (hhosts : ∀ m ∈ rest, m.Orderly ctx)
    (locale : String) (report : Module.Report) (s : Supply × Office) :
    ∃ more brought r t, more.Sublist rest ∧
      List.Forall₂ (Module.Brings s.2.queueLabel ctx) more brought ∧
      Registers brought.flatten (loadAll ctx locale report rest) s r t ∧
      ∀ report' items, r = .ok (report', items) → report'.loaded = report.loaded ++ ids more := by
  induction rest generalizing s report with
  | nil =>
    refine ⟨[], [], _, _, .slnil, .nil, registers_of_apart (.pure _) rfl, ?_⟩
    rintro report' items ⟨⟩
    simp [ids]
  | cons m rest ih =>
    obtain ⟨hhost, hhosts⟩ := List.forall_mem_cons.1 hhosts
    rw [loadAll_cons]
    cases hactive : ctx.ensureActive with
    | error f =>
      exact ⟨[], [], .error f, s, List.nil_sublist _, .nil,
        (registers_of_apart (.ofExcept _) (Call.ofExcept_apply ..)).fails, by rintro _ _ ⟨⟩⟩
    | ok u =>
      have hfirst : (Call.ofExcept (.ok u) : Call Office Unit) s = (.ok u, s) := rfl
      have hasked := Call.asks_apply (fun o : Office => m.skip? o.gate ctx report.skipped) s
      cases hfate : m.skip? s.2.gate ctx report.skipped with
      | error f =>
        rw [hfate] at hasked
        refine ⟨[], [], .error f, s, List.nil_sublist _, .nil, ?_, by rintro _ _ ⟨⟩⟩
        exact .after (.ofExcept _) hfirst (registers_of_apart (.asks fun _ _ => rfl) hasked).fails
      | ok fate =>
        rw [hfate] at hasked
        cases fate with
        | some skipped =>
          obtain ⟨more, brought, r, t, hmore, hbrought, hregisters, hloaded⟩ :=
            ih hhosts { report with skipped := report.skipped ++ [skipped] } s
          refine ⟨more, brought, r, t, hmore.cons m, hbrought, ?_, hloaded⟩
          exact .after (.ofExcept _) hfirst (.after (.asks fun _ _ => rfl) hasked hregisters)
        | none =>
          obtain ⟨rs, hbrings, r₁, s₁, hintroduce⟩ := registers_introduce hhost locale s
          cases r₁ with
          | error f =>
            refine ⟨[m], [rs], .error f, s₁, List.singleton_sublist.2 List.mem_cons_self,
              .cons hbrings .nil, ?_, by rintro _ _ ⟨⟩⟩
            rw [List.flatten_singleton]
            exact .after (.ofExcept _) hfirst (.after (.asks fun _ _ => rfl) hasked hintroduce.fails)
          | ok items =>
            obtain ⟨more, brought, r, t, hmore, hbrought, hregisters, hloaded⟩ :=
              ih hhosts { report with loaded := report.loaded ++ [m.id] } s₁
            have hlabel : s₁.2.queueLabel = s.2.queueLabel := congrArg Prod.fst hintroduce.frame
            rw [hlabel] at hbrought
            have hrest := hregisters.map fun p => (p.1, items ++ p.2)
            refine ⟨m :: more, rs :: brought, (fun p => (p.1, items ++ p.2)) <$> r, t,
              hmore.cons_cons m, .cons hbrings hbrought, ?_, ?_⟩
            · rw [List.flatten_cons]
              exact .after (.ofExcept _) hfirst
                (.after (.asks fun _ _ => rfl) hasked (hintroduce.bind hrest))
            · intro report' items' hr
              cases r with
              | error f => cases hr
              | ok p =>
                cases hr
                rw [hloaded p.1 p.2 rfl, List.append_assoc]
                rfl

/-- Of the modules `ms` an attempt to load them looked at `tried`, and loaded `done`, which registered
what they bring. Of what the next one brings, it registered `part`. -/
structure Attempt (ctx : Context) (locale : String) (ms : List Module) (s : Supply × Office)
    (tried done : List Module) (brought : List (List Installation)) (part : List Installation) :
    Prop where
  reached : tried <+: ms
  sublist : done.Sublist tried
  loaded : ∃ itemsOf s', done.mapM (introduce ctx locale) s = (.ok itemsOf, s')
  brings : List.Forall₂ (Brings s.2.queueLabel ctx) done brought
  stopped : part = [] ∨ ∃ m rs, tried ++ [m] <+: ms ∧ m.Brings s.2.queueLabel ctx rs ∧ part <+: rs

namespace Attempt

variable {ms tried done : List Module} {brought : List (List Installation)}
  {rs part : List Installation}

theorem none : Attempt ctx locale ms s [] [] [] [] :=
  ⟨List.nil_prefix, .slnil, ⟨[], s, rfl⟩, .nil, .inl rfl⟩

theorem stop (hbrings : m.Brings s.2.queueLabel ctx rs) (hpart : part <+: rs) :
    Attempt ctx locale (m :: ms) s [] [] [] part :=
  ⟨List.nil_prefix, .slnil, ⟨[], s, rfl⟩, .nil,
    .inr ⟨m, rs, (List.prefix_cons_inj m).2 List.nil_prefix, hbrings, hpart⟩⟩

theorem skip (h : Attempt ctx locale ms s tried done brought part) (m : Module) :
    Attempt ctx locale (m :: ms) s (m :: tried) done brought part where
  reached := (List.prefix_cons_inj m).2 h.reached
  sublist := h.sublist.cons m
  loaded := h.loaded
  brings := h.brings
  stopped := h.stopped.imp_right fun ⟨next, rs, hnext, hrs⟩ =>
    ⟨next, rs, (List.prefix_cons_inj m).2 hnext, hrs⟩

theorem load {items : List Menu.Item} (hlabel : t.2.queueLabel = s.2.queueLabel)
    (hintroduce : introduce ctx locale m s = (.ok items, t))
    (hbrings : m.Brings s.2.queueLabel ctx rs) (h : Attempt ctx locale ms t tried done brought part) :
    Attempt ctx locale (m :: ms) s (m :: tried) (m :: done) (rs :: brought) part where
  reached := (List.prefix_cons_inj m).2 h.reached
  sublist := h.sublist.cons_cons m
  loaded := by
    obtain ⟨itemsOf, s', hdone⟩ := h.loaded
    refine ⟨items :: itemsOf, s', ?_⟩
    rw [List.mapM_cons, bind_apply_ok hintroduce, bind_apply_ok hdone]
    rfl
  brings := .cons hbrings (hlabel ▸ h.brings)
  stopped := h.stopped.imp_right fun ⟨next, rs, hnext, hrs⟩ =>
    ⟨next, rs, (List.prefix_cons_inj m).2 hnext, hlabel ▸ hrs⟩

end Attempt

theorem frame_introduce {r : Except Fault (List Menu.Item)} (h : introduce ctx locale m s = (r, t)) :
    t.2.frame = s.2.frame ∧
      (m.Spares ctx (·.services.gate) → ∀ items, r = .ok items → t.2.gate = s.2.gate) := by
  have hdone : (introduce ctx locale m).Ensures s.2 _ :=
    ensures_introduce (G := m.Spares ctx (·.services.gate)) (J := False) id False.elim
  have hrun := hdone s.1
  rw [h] at hrun
  exact ⟨hrun.1, fun hspares items hr => (hrun.2 items hr).gate hspares⟩

theorem attempt_loadAll {rest : List Module} {report : Module.Report}
    {r : Except Fault (Module.Report × List Menu.Item)} (hhosts : ∀ m ∈ rest, m.Orderly ctx)
    (h : loadAll ctx locale report rest s = (r, t)) :
    t.2.frame = s.2.frame ∧ ∃ tried done brought part,
      Attempt ctx locale rest s tried done brought part ∧
      installAll (brought.flatten ++ part) s.2.fixtures = (.ok (), t.2.fixtures) ∧
      ((∀ m ∈ rest, m.Spares ctx (·.services.gate)) → ∀ {ms loaded},
        Sorted s.2.gate ctx ms loaded report.skipped →
          ∃ skipped, Sorted s.2.gate ctx (ms ++ tried) (loaded ++ done) skipped) := by
  induction rest generalizing s report r with
  | nil =>
    cases h
    exact ⟨rfl, [], [], [], [], .none, rfl, fun _ _ _ hsorted => ⟨_, by simpa using hsorted⟩⟩
  | cons m rest ih =>
    obtain ⟨hhost, hhosts⟩ := List.forall_mem_cons.1 hhosts
    rw [loadAll_cons_apply] at h
    split at h
    · cases h
      exact ⟨rfl, [], [], [], [], .none, rfl, fun _ _ _ hsorted => ⟨_, by simpa using hsorted⟩⟩
    · cases h
      exact ⟨rfl, [], [], [], [], .none, rfl, fun _ _ _ hsorted => ⟨_, by simpa using hsorted⟩⟩
    · rename_i hskip
      obtain ⟨hframe, tried, done, brought, part, hattempt, hinstalled, hsorted⟩ := ih hhosts h
      refine ⟨hframe, m :: tried, done, brought, part, hattempt.skip m, hinstalled, ?_⟩
      intro hspares ms loaded hms
      simpa using hsorted (List.forall_mem_cons.1 hspares).2 (hms.skip hskip)
    · rename_i hload
      obtain ⟨rs, hbrings, r₁, t₁, hregisters⟩ := registers_introduce hhost locale s
      split at h
      · rename_i hintroduce
        cases h
        have hmade : ∃ part, part <+: rs ∧ installAll part s.2.fixtures = (.ok (), t.2.fixtures) := by
          rcases hregisters.run hintroduce with ⟨hinstall, -⟩ | ⟨e, -, hrefused⟩
          · exact ⟨rs, List.prefix_rfl, hinstall⟩
          · exact prefix_of_refused hrefused
        obtain ⟨part, hpart, hinstalled⟩ := hmade
        exact ⟨(frame_introduce hintroduce).1, [], [], [], part, .stop hbrings hpart, hinstalled,
          fun _ _ _ hsorted => ⟨_, by simpa using hsorted⟩⟩
      · rename_i items s₁ hintroduce
        obtain ⟨hframe, hgate⟩ := frame_introduce hintroduce
        have hlabel : s₁.2.queueLabel = s.2.queueLabel := congrArg Prod.fst hframe
        have hinstall : installAll rs s.2.fixtures = (.ok (), s₁.2.fixtures) := by
          rcases hregisters.run hintroduce with ⟨hinstall, -⟩ | ⟨e, hrefused, -⟩
          · exact hinstall
          · cases hrefused
        have hrest : ∃ r', loadAll ctx locale { report with loaded := report.loaded ++ [m.id] } rest
            s₁ = (r', t) := by
          split at h
          · rename_i hrest
            cases h
            exact ⟨_, hrest⟩
          · rename_i hrest
            cases h
            exact ⟨_, hrest⟩
        obtain ⟨r', hrest⟩ := hrest
        obtain ⟨hframe', tried, done, brought, part, hattempt, hinstalled, hsorted⟩ := ih hhosts hrest
        refine ⟨hframe'.trans hframe, m :: tried, m :: done, rs :: brought, part,
          hattempt.load hlabel hintroduce hbrings, ?_, ?_⟩
        · rw [List.flatten_cons, List.append_assoc, installAll_append_ok hinstall]
          exact hinstalled
        · intro hspares ms loaded hms
          obtain ⟨hspare, hspares⟩ := List.forall_mem_cons.1 hspares
          have hgate := hgate hspare items rfl
          rw [hgate] at hsorted
          simpa using hsorted hspares (hms.load hload)

theorem load_apply (hfirst : s.2.report = none) :
    load ctx s = match loadAll ctx (s.2.localeFor ctx) .empty s.2.modules s with
      | (.error f, t) => (.error f, t)
      | (.ok (report, items), t) => match mergeItems ctx items t with
        | (.error f, t) => (.error f, t)
        | (.ok added, t) =>
          let report := { report with itemsAdded := added }
          (.ok report, t.1, { t.2 with report := some report }) := by
  rw [load, Call.bind_apply, Call.state_apply]
  simp only [hfirst]
  rw [Call.bind_apply, localeFor]
  rcases loadAll ctx _ .empty s.2.modules s with ⟨f | ⟨report, items⟩, t⟩
  · rfl
  · dsimp only
    rw [Call.bind_apply]
    rcases mergeItems ctx items t with ⟨f | added, t⟩ <;> rfl

theorem load_error {f : Fault} (hhosts : ∀ m ∈ s.2.modules, m.Orderly ctx)
    (hfirst : s.2.report = none) (h : load ctx s = (.error f, t)) :
    t.2.frame = s.2.frame ∧ ∃ tried done brought part,
      Attempt ctx (s.2.localeFor ctx) s.2.modules s tried done brought part ∧
      installAll (brought.flatten ++ part) s.2.fixtures = (.ok (), t.2.fixtures) ∧
      ((∀ m ∈ s.2.modules, m.Spares ctx (·.services.gate)) →
        ∃ skipped, Sorted s.2.gate ctx tried done skipped) := by
  obtain ⟨r, t₁, hall⟩ : ∃ r t₁, loadAll ctx (s.2.localeFor ctx) .empty s.2.modules s = (r, t₁) :=
    ⟨_, _, rfl⟩
  obtain ⟨hframe, tried, done, brought, part, hattempt, hinstalled, hsorted⟩ :=
    attempt_loadAll hhosts hall
  have hleft : t.2.frame = t₁.2.frame ∧ t.2.fixtures = t₁.2.fixtures := by
    rw [load_apply hfirst, hall] at h
    split at h
    · rename_i hend
      cases hend
      cases h
      exact ⟨rfl, rfl⟩
    · rename_i hend
      cases hend
      split at h
      · rename_i told items _ _ _ hmerge
        cases h
        have hapart : Apart (mergeItems ctx items) := apart_mergeItems
        have hframe := hapart.frame t₁.1 t₁.2
        have hkept := hapart.keeps t₁
        rw [hmerge] at hframe hkept
        exact ⟨hframe, hkept⟩
      · cases h
  rw [← hleft.2] at hinstalled
  exact ⟨hleft.1.trans hframe, tried, done, brought, part, hattempt, hinstalled,
    fun hspares => hsorted hspares .nil⟩

theorem load_answers (hhosts : ∀ m ∈ s.2.modules, m.Orderly ctx) (hfirst : s.2.report = none) :
    ∃ more brought r, more.Sublist s.2.modules ∧
      List.Forall₂ (Brings s.2.queueLabel ctx) more brought ∧
      (∀ report, r = .ok report → report.loaded = ids more) ∧
      ∀ x, (load ctx (s.1, s.2.withFixtures x)).1 = (installAll brought.flatten x).1 >>= fun _ => r := by
  obtain ⟨more, brought, r, t, hmore, hbrought, hregisters, hloaded⟩ :=
    registers_loadAll hhosts (s.2.localeFor ctx) .empty s
  refine ⟨more, brought, r >>= fun p => (mergeItems ctx p.2 t).1.map fun added =>
    { p.1 with itemsAdded := added }, hmore, hbrought, fun report hreport => ?_, fun x => ?_⟩
  · obtain ⟨p, rfl, hp⟩ := bind_eq_ok.1 hreport
    cases hmerge : (mergeItems ctx p.2 t).1 with
    | error f =>
      rw [hmerge] at hp
      cases hp
    | ok added =>
      rw [hmerge] at hp
      cases hp
      exact hloaded p.1 p.2 rfl
  · have hmodules : (s.2.withFixtures x).modules = s.2.modules := rfl
    have hlocale : (s.2.withFixtures x).localeFor ctx = s.2.localeFor ctx := rfl
    rw [load_apply (s := (s.1, s.2.withFixtures x)) hfirst, hmodules, hlocale]
    rcases hinstall : installAll brought.flatten x with ⟨e | _, y⟩
    · obtain ⟨u, hfails, -⟩ := hregisters.refused hinstall
      rw [hfails]
      rfl
    · rw [hregisters.taken hinstall]
      rcases r with e | ⟨report, items⟩
      · rfl
      · dsimp only
        have hapart : Apart (mergeItems ctx items) := apart_mergeItems
        rw [hapart.fixtures]
        change _ = (mergeItems ctx items t).1.map _
        rcases mergeItems ctx items t with ⟨e | added, u⟩ <;> rfl

end Office

end Backoffice

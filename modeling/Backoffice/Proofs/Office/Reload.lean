import Mathlib.Data.List.Perm.Subperm
import Backoffice.Proofs.Office.Fixtures

namespace Backoffice.Office

open Backoffice.Module (Accepted Brings Orderly Sorted ids)
open Installation (installAll installAll_beside isIn_of_installAll)

variable {o o₁ o₂ : Office} {ctx ctx' : Context}

theorem eq_filter_of_sublist {ms loaded : List Module} {report : Module.Report} (hms : Accepted ms)
    (h : loaded.Sublist ms) (hloaded : report.loaded = ids loaded) :
    loaded = ms.filter fun m => report.isLoaded m.id := by
  have hall : ∀ m ∈ loaded, report.isLoaded m.id = true := fun m hm => by
    simpa [Module.Report.isLoaded, hloaded] using Module.id_mem_ids hm
  have hsublist : loaded.Sublist (ms.filter fun m => report.isLoaded m.id) := by
    have hfiltered := h.filter fun m => report.isLoaded m.id
    rwa [List.filter_eq_self.2 hall] at hfiltered
  have hback : (ms.filter fun m => report.isLoaded m.id) ⊆ loaded := by
    intro m hm
    obtain ⟨hm, hid⟩ := List.mem_filter.1 hm
    rw [Module.Report.isLoaded, List.contains_iff_mem, hloaded] at hid
    obtain ⟨m', hm', hid⟩ := Module.mem_ids.1 hid
    rwa [← hms.eq_of_id (h.subset hm') hm hid]
  have hnodup := (List.Nodup.of_map _ hms.nodup).filter fun m => report.isLoaded m.id
  exact hsublist.eq_of_length_le (List.Nodup.subperm hnodup hback).length_le

/-- A load that failed leaves what its modules had registered. Loading once more in a state where it
would succeed without that succeeds, unless a module is to be loaded that registers some of it once
more: the first such thing is refused. -/
theorem load_repeated {supply supply₁ supply' : Supply} {f : Fault} {report : Module.Report}
    (hhosts : ∀ m ∈ o.modules, m.Orderly ctx) (hhosts₂ : ∀ m ∈ o₂.modules, m.Orderly ctx')
    (haccepted : Accepted o₂.modules) (hfirst : o.report = none)
    (hfailed : load ctx (supply, o) = (.error f, supply₁, o₁))
    (hframe : o₂.frame = o₁.frame) (hfixtures : o₂.fixtures = o₁.fixtures)
    (hremoved : (load ctx' (supply', o₂.withFixtures o.fixtures)).1 = .ok report) :
    o₁.report = none ∧ ∃ tried done brought part,
      Attempt ctx (o.localeFor ctx) o.modules (supply, o) tried done brought part ∧
      ((∀ m ∈ o.modules, m.Spares ctx (·.services.gate)) →
        ∃ skipped, Sorted o.gate ctx tried done skipped) ∧
      let made := brought.flatten ++ part
      installAll made o.fixtures = (.ok (), o₁.fixtures) ∧
      ∃ brings, List.Forall₂ (Brings o.queueLabel ctx')
          (o₂.modules.filter fun m => report.isLoaded m.id) brings ∧
        (load ctx' (supply', o₂)).1 =
          match brings.flatten.find? (·.isBarred (made.map (·.fixture))) with
          | some r => .error r.fixture.refusal
          | none => .ok report := by
  obtain ⟨hframe₁, tried, done, brought, part, hattempt, hmade, hsorted⟩ :=
    load_error (s := (supply, o)) hhosts hfirst hfailed
  have hframe₂ : o₂.frame = o.frame := hframe.trans hframe₁
  have hlabel : o₂.queueLabel = o.queueLabel := congrArg Prod.fst hframe₂
  have hreport : o₁.report = none := (congrArg Prod.snd hframe₁).trans hfirst
  have hfirst₂ : o₂.report = none := (congrArg Prod.snd hframe₂).trans hfirst
  obtain ⟨more, brings, r, hmore, hbrings, hloaded, hanswers⟩ :=
    load_answers (s := (supply', o₂)) hhosts₂ hfirst₂
  have hanswer := (hanswers o.fixtures).symm.trans hremoved
  obtain ⟨_, hinstalled, hr⟩ := bind_eq_ok.1 hanswer
  have hfilter := eq_filter_of_sublist haccepted hmore (hloaded report hr)
  rw [hfilter, hlabel] at hbrings
  refine ⟨hreport, tried, done, brought, part, hattempt, hsorted, hmade, brings, hbrings, ?_⟩
  have hsame : o₂.withFixtures o₁.fixtures = o₂ := hfixtures ▸ rfl
  have hlast := hanswers o₁.fixtures
  rw [hsame, installAll_beside (isIn_of_installAll hmade) (Prod.ext hinstalled rfl), hr] at hlast
  rw [hlast]
  cases brings.flatten.find? (·.isBarred ((brought.flatten ++ part).map (·.fixture))) <;> rfl

def invoice : Command.Topic := ⟨"Invoice", false, fun p => some (.host p)⟩

def billing (fails : Bool) (_ : Context) : Call Premises Unit := do
  Call.update fun x => do
    let bus ← x.services.bus.register invoice (.host fun _ _ _ => pure none) false
    .ok { x with services := { x.services with bus } }
  if fails then throw (.conflict "no account")

def hosting (fails : Bool) : Office :=
  { vacant with
    services := { vacant.services with gate := ⟨.ofList [("dashboard", true)], none⟩ }
    modules := Module.standard .standard ++
      [⟨.new "billing", .host (billing fails), fun _ => [], false⟩]
    queueLabel := Command.typeName }

theorem orderly_hosting (fails : Bool) : ∀ m ∈ (hosting fails).modules, m.Orderly ctx := by
  intro m hm run hrun s
  rcases List.mem_append.1 hm with hm | hm
  · simp only [Module.standard, List.mem_cons, List.not_mem_nil, or_false] at hm
    rcases hm with rfl | rfl | rfl | rfl <;> cases hrun
  · obtain rfl := List.mem_singleton.1 hm
    cases hrun
    refine ⟨[⟨.handler invoice (.host fun _ _ _ => pure none) false, false⟩],
      if fails then .error (.conflict "no account") else .ok (), s, registers_of_run fun x => ?_⟩
    unfold onPremises billing
    rw [Call.within_apply, Call.bind_apply, Call.update_apply, Installation.installAll,
      Installation.install_strict]
    dsimp only [withFixtures, Entry.install]
    cases x.2.register invoice (.host fun _ _ _ => pure none) false <;> cases fails <;> rfl

def attempt : Except Fault Module.Report × Supply × Office :=
  load .empty (⟨⟨0, 0⟩, 0⟩, hosting true)

def mended : Office := { attempt.2.2 with modules := (hosting false).modules }

def hostedReport : Module.Report where
  loaded := ["dashboard", "billing"]
  skipped := [⟨"workflows", "workflows", "module workflows requires feature workflows"⟩,
    ⟨"translation_queue", "translation_queue",
      "module translation_queue requires feature translation_queue"⟩,
    ⟨"cms", "cms", "module cms requires feature cms"⟩]
  itemsAdded := 1

theorem attempt_fails : attempt.1 = .error (.conflict "no account") := by decide +kernel

theorem mended_loads : (load .empty (⟨⟨0, 0⟩, 0⟩,
    mended.withFixtures (hosting true).fixtures)).1 = .ok hostedReport := by decide +kernel

theorem load_repeated_hosting :
    attempt.1 = .error (.conflict "no account") ∧
      (load .empty (⟨⟨0, 0⟩, 0⟩, mended.withFixtures (hosting true).fixtures)).1 = .ok hostedReport ∧
      ∃ made brings : List Installation,
        installAll made (hosting true).fixtures = (.ok (), attempt.2.2.fixtures) ∧
        (load .empty (⟨⟨0, 0⟩, 0⟩, mended)).1 =
          match brings.find? (·.isBarred (made.map (·.fixture))) with
          | some r => .error r.fixture.refusal
          | none => .ok hostedReport := by
  have haccepted : Accepted mended.modules :=
    Module.accepted_of_needs_nil (by decide) (by decide) (by decide)
  have hhosts : ∀ m ∈ mended.modules, m.Orderly .empty := orderly_hosting false
  have hload : attempt = (.error (.conflict "no account"), attempt.2.1, attempt.2.2) :=
    Prod.ext attempt_fails rfl
  obtain ⟨-, tried, done, brought, part, -, -, hmade, brings, -, hlast⟩ :=
    load_repeated (orderly_hosting true) hhosts haccepted rfl hload rfl rfl mended_loads
  exact ⟨attempt_fails, mended_loads, _, _, hmade, hlast⟩

/-- An attempt that failed cannot be repeated once its cause is removed: the first module that it
loaded is refused as a duplicate. -/
theorem load_fails_again :
    attempt.1 = .error (.conflict "no account") ∧
      (load .empty (⟨⟨0, 0⟩, 0⟩, mended.withFixtures (hosting true).fixtures)).1 = .ok hostedReport ∧
      (load .empty (⟨⟨0, 0⟩, 0⟩, mended)).1 =
        .error (.alreadyExists "dashboard widget" "panels") := by
  exact ⟨attempt_fails, mended_loads, by decide⟩

end Backoffice.Office

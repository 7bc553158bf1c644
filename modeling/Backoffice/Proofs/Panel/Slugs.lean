import Backoffice.Proofs.Interleaving
import Backoffice.Proofs.Panel.Steps

namespace Backoffice

/-- Two content types of an environment have one slug. -/
def Site.Shares (s : Site) : Prop :=
  ∃ environment typeId typeId' slug, typeId ≠ typeId' ∧
    s.slug? environment typeId = some slug ∧ s.slug? environment typeId' = some slug

namespace Panel.Factory

open Call (Ensures Quiet)
open Process (meets_atomically)

def SlugEvent.Allows : SlugEvent → Site → Site → Prop
  | .reserve environment typeId slug, s, t => t = s ∨
    s.isTaken environment typeId slug = false ∧ t = s.withSlug environment typeId (some slug)
  | .release environment typeId previous, s, t => t = s.withSlug environment typeId previous
  | .aside, s, t => t.slugs = s.slugs

abbrev slugContract : Contract SlugEvent Site := .free SlugEvent.Allows

structure Lawful {α : Type} (p : Steps α) : Prop where
  keeps : ∀ s, p.Keeps slugContract s

namespace Lawful

variable {α β : Type} {environment typeId slug : String} {previous : Option String}

theorem done {r : Except Fault α} : Lawful (.done r) := ⟨fun _ => trivial⟩

theorem pure {a : α} : Lawful (Pure.pure a) := done

theorem failing {e : Fault} : Lawful (failing e : Steps α) := done

theorem bind {p : Steps α} {f : α → Steps β} (hp : Lawful p) (hf : ∀ a, Lawful (f a)) :
    Lawful (p >>= f) := ⟨fun s => (hp.keeps s).bind fun a t => (hf a).keeps t⟩

theorem attempt {p : Steps α} (hp : Lawful p) : Lawful p.attempt := ⟨fun s => (hp.keeps s).attempt⟩

theorem ite {b : Prop} [Decidable b] {p q : Steps α} (hp : Lawful p) (hq : Lawful q) :
    Lawful (if b then p else q) := by
  split
  · exact hp
  · exact hq

theorem guarded {b : Prop} [Decidable b] {g : Steps α} {p : Steps β} (hg : Lawful g)
    (hp : Lawful p) : Lawful (if b then g >>= fun _ => p else p) := ite (bind hg fun _ => hp) hp

theorem handled {p : Steps α} {f : Except Fault α → Steps β} (hp : Lawful p)
    (hok : ∀ a, Lawful (f (.ok a))) (herror : ∀ e, Lawful (f (.error e))) :
    Lawful (p.attempt >>= f) := by
  refine bind (attempt hp) fun r => ?_
  cases r with
  | ok a => exact hok a
  | error e => exact herror e

theorem forM {f : α → Steps PUnit} {as : List α} (hf : ∀ a, Lawful (f a)) : Lawful (as.forM f) :=
  ⟨fun s => Process.keeps_forM (fun a t => (hf a).keeps t) as s⟩

theorem apart {c : Call Site α} (h : ∀ s, c.Leaves s (·.slugs = s.slugs)) : Lawful (apart c) :=
  ⟨fun _ => meets_atomically fun supply t _ _ => ⟨h t supply, trivial⟩⟩

theorem quiet {c : Call Site α} (h : c.Quiet) : Lawful (Factory.apart c) :=
  apart fun _ => h.leaves rfl

theorem ofExcept {r : Except Fault α} : Lawful (Factory.apart (Call.ofExcept r)) :=
  quiet (Call.quiet_ofExcept r)

theorem asks {g : Site → Except Fault α} : Lawful (Factory.apart (Call.asks g)) :=
  quiet (Call.quiet_asks g)

theorem onRegistry {g : Registry → Registry} : Lawful (Factory.apart (Site.onRegistry g)) :=
  apart fun _ _ => rfl

theorem onMenus {g : Menu.Service → Except Fault Menu.Service} :
    Lawful (Factory.apart (Site.onMenus g)) :=
  apart fun _ => Site.ensures_onMenus (fun _ _ => rfl) fun _ _ => rfl

theorem putting {g : Menu.Service → Except Fault (Menu.Item × Menu.Service)} :
    Lawful (putting g) := by
  refine apart fun s => Call.ensures_atomic (fun a t h => ?_) fun _ _ => rfl
  obtain ⟨_, _, h⟩ := bind_eq_ok.1 h
  cases h
  rfl

theorem reserving : Lawful (reserving environment typeId slug) := by
  refine ⟨fun _ => meets_atomically fun supply t _ _ => ⟨?_, trivial⟩⟩
  refine Site.ensures_reserve (P := fun _ u => u = t ∨
    t.isTaken environment typeId slug = false ∧ u = t.withSlug environment typeId (some slug))
    ?_ ?_ supply
  · exact fun hfree => .inr ⟨hfree, rfl⟩
  · exact fun _ _ => .inl rfl

theorem releasing : Lawful (releasing environment typeId previous) :=
  ⟨fun _ => meets_atomically fun _ _ _ _ => ⟨rfl, trivial⟩⟩

end Lawful

section

variable (f : Factory) (runtime : Workflow.Runtime) (ctx : Context) (c : ContentType)

theorem lawful_unregisterSteps (name : String) : Lawful (unregisterSteps ctx name) := by
  refine .bind (.apart fun _ _ => rfl) fun found => .bind .onRegistry fun _ => ?_
  refine .bind (.apart fun _ _ => rfl) fun ⟨attachment, drops⟩ => ?_
  cases attachment with
  | none => exact .pure
  | some a => exact .guarded .onMenus .pure

theorem lawful_detachSteps (name : String) : Lawful (f.detachSteps ctx name) := by
  refine .bind (.apart fun _ _ => rfl) fun attachment => ?_
  have hgone : Lawful (unregisterSteps ctx name >>= fun _ => pure ()) :=
    .bind (lawful_unregisterSteps ctx name) fun _ => .pure
  cases attachment with
  | none => exact hgone
  | some a => exact .guarded .onMenus hgone

theorem lawful_ensureMenuSteps (code : String) : Lawful (ensureMenuSteps ctx code) := by
  refine .handled .asks (fun _ => .pure) fun e => ?_
  exact .ite (.handled .onMenus (fun _ => .pure) fun _ => .ite .pure .failing) .failing

theorem lawful_linkMenuSteps (p : Panel) (slug : String) (position : Option Int) :
    Lawful (f.linkMenuSteps ctx c p slug position) := by
  refine .bind (lawful_ensureMenuSteps ctx f.menuCode) fun _ => .bind .asks fun existing => ?_
  refine .bind (.forM fun _ => .onMenus) fun _ => ?_
  cases existing.find? (·.id == (f.menuItem ctx p c slug position).id) with
  | some current => exact .bind .putting fun _ => .pure
  | none =>
    refine .handled .putting (fun _ => .pure) fun e => ?_
    exact .ite (.bind .putting fun _ => .pure) (.bind .failing fun _ => .pure)

theorem lawful_linkSteps (environment slug : String) (position : Option Int) :
    Lawful (f.linkSteps runtime ctx c environment slug position) := by
  refine .guarded .ofExcept (.bind .ofExcept fun p => ?_)
  refine .bind .onRegistry fun _ => .bind .onRegistry fun _ => ?_
  refine .ite (.bind (lawful_linkMenuSteps f ctx c p slug position) fun _ => ?_) .pure
  exact .bind .onRegistry fun _ => .pure

theorem lawful_cleanupSteps (environment : String) :
    Lawful (f.cleanupSteps ctx c environment) := by
  refine .bind ⟨fun _ => meets_atomically fun _ _ _ _ => ⟨rfl, trivial⟩⟩ fun recorded => ?_
  exact .ite (lawful_detachSteps f ctx _) .pure

theorem lawful_createSteps (position : Option Int) :
    Lawful (f.createSteps runtime ctx c position) := by
  refine .bind .ofExcept fun _ => ?_
  refine .ite (.guarded .failing (.bind .reserving fun previous => ?_)) ?_
  · refine .handled (lawful_linkSteps f runtime ctx c _ _ position) (fun _ => .pure) fun e => ?_
    exact .bind .releasing fun _ => .failing
  · exact .guarded .ofExcept (.bind (lawful_cleanupSteps f ctx c _) fun _ => .pure)

theorem lawful_positionSteps (name : String) : Lawful (f.positionSteps ctx name) := by
  refine .ite (.bind (.apart fun _ _ => rfl) fun attachment => ?_) .pure
  cases attachment with
  | none => exact .pure
  | some a => exact .apart fun _ _ => rfl

theorem lawful_leaveSteps (environment old : String) (exposes : Bool) :
    Lawful (f.leaveSteps ctx c environment old exposes) := by
  refine .guarded .reserving (.bind (lawful_positionSteps f ctx _) fun position => ?_)
  exact .handled (lawful_detachSteps f ctx _) (fun _ => .guarded .releasing .pure)
    fun _ => .guarded .releasing .failing

theorem lawful_refreshSteps : Lawful (f.refreshSteps runtime ctx c) := by
  refine .bind .ofExcept fun _ => .bind (.apart fun _ _ => rfl) fun r => ?_
  dsimp only
  cases r.filter (· != c.panelSlug) with
  | none => exact lawful_createSteps f runtime ctx c none
  | some old =>
    refine .bind (lawful_leaveSteps f ctx c _ old _) fun position => ?_
    exact .handled (lawful_createSteps f runtime ctx c position) (fun _ => .pure)
      fun _ => .guarded .releasing .failing

theorem Request.lawful_steps (q : Request) : Lawful (q.steps f runtime ctx) := by
  cases q with
  | create c => exact .bind (lawful_createSteps f runtime ctx c none) fun _ => .pure
  | refresh c => exact .bind (lawful_refreshSteps f runtime ctx c) fun _ => .pure
  | remove c =>
    exact .bind .ofExcept fun _ => lawful_cleanupSteps f ctx c _

end

variable {s t : Site} {environment typeId slug : String}

theorem shares_withSlug (hs : ¬s.Shares) :
    (s.withSlug environment typeId (some slug)).Shares ↔
      ∃ other, other ≠ typeId ∧ s.slug? environment other = some slug := by
  constructor
  · rintro ⟨e, x, y, z, hne, hx, hy⟩
    rw [Site.slug?_withSlug] at hx hy
    split at hx
    · rename_i hown
      obtain ⟨rfl, rfl⟩ := hown
      rw [if_neg fun h => hne h.2.symm, ← hx] at hy
      exact ⟨y, hne.symm, hy⟩
    · split at hy
      · rename_i hown
        obtain ⟨rfl, rfl⟩ := hown
        rw [← hy] at hx
        exact ⟨x, hne, hx⟩
      · exact absurd ⟨e, x, y, z, hne, hx, hy⟩ hs
  · rintro ⟨other, hne, h⟩
    refine ⟨environment, other, typeId, slug, hne, ?_, ?_⟩
    · rwa [Site.slug?_withSlug, if_neg fun h => hne h.2]
    · rw [Site.slug?_withSlug, if_pos ⟨rfl, rfl⟩]

theorem not_shares_without (hs : ¬s.Shares) :
    ¬(s.withSlug environment typeId none).Shares := by
  rintro ⟨e, x, y, z, hne, hx, hy⟩
  rw [Site.slug?_withSlug] at hx hy
  split at hx
  · cases hx
  · split at hy
    · cases hy
    · exact hs ⟨e, x, y, z, hne, hx, hy⟩

theorem not_shares_congr (h : t.slugs = s.slugs) (hs : ¬s.Shares) : ¬t.Shares := by
  rintro ⟨e, x, y, z, hne, hx, hy⟩
  rw [Site.slug?_congr h] at hx hy
  exact hs ⟨e, x, y, z, hne, hx, hy⟩

/-- A slug is put back that another content type has by then. -/
def Disputed (m : Moment SlugEvent Site) : Prop :=
  ∃ environment typeId slug other, m.event = .release environment typeId (some slug) ∧
    other ≠ typeId ∧ m.before.slug? environment other = some slug

theorem shares_iff_disputed {m : Moment SlugEvent Site} (hm : m.event.Allows m.before m.after)
    (hs : ¬m.before.Shares) : m.after.Shares ↔ Disputed m := by
  obtain ⟨i, event, s, t⟩ := m
  dsimp only at hm hs ⊢
  cases event with
  | reserve environment typeId slug =>
    refine iff_of_false ?_ (by simp [Disputed])
    rcases hm with rfl | ⟨hfree, rfl⟩
    · exact hs
    · rw [shares_withSlug hs]
      rintro ⟨other, hne, h⟩
      cases (Site.isTaken_of_slug? h hne).symm.trans hfree
  | release environment typeId previous =>
    cases hm
    cases previous with
    | none => exact iff_of_false (not_shares_without hs) (by simp [Disputed])
    | some slug => simp [shares_withSlug hs, Disputed]
  | aside => exact iff_of_false (not_shares_congr hm hs) (by simp [Disputed])

theorem not_shares_iff {ms : List (Moment SlugEvent Site)} (h : slugContract.Allows s ms t)
    (hs : ¬s.Shares) :
    ((∀ m ∈ ms, ¬m.after.Shares) ∧ ¬t.Shares) ↔ ∀ m ∈ ms, ¬Disputed m := by
  induction ms generalizing s with
  | nil =>
    cases h
    simp [hs]
  | cons m ms ih =>
    obtain ⟨rfl, hallowed, hrest⟩ := h
    rw [List.forall_mem_cons, List.forall_mem_cons, and_assoc, ← shares_iff_disputed hallowed hs]
    exact and_congr_right fun hafter => ih hrest hafter

def sideBySide (f : Factory) (calls : List (Workflow.Runtime × Context × Request))
    (supply : Supply) (s : Site) : World SlugEvent Site Unit :=
  ⟨calls.map fun (runtime, ctx, q) => q.steps f runtime ctx, supply, s⟩

theorem slugs_exclusive (f : Factory) (calls : List (Workflow.Runtime × Context × Request))
    (supply : Supply) (turns : List Turn) (hs : ¬s.Shares) :
    let run := (sideBySide f calls supply s).play turns
    ((∀ m ∈ run.1, ¬m.after.Shares) ∧ ¬run.2.state.Shares) ↔ ∀ m ∈ run.1, ¬Disputed m := by
  have hcalls : ∀ p ∈ (sideBySide f calls supply s).calls, p.Keeps slugContract s := by
    intro p hp
    obtain ⟨⟨runtime, ctx, q⟩, -, rfl⟩ := List.mem_map.1 hp
    exact (Request.lawful_steps f runtime ctx q).keeps s
  exact not_shares_iff (World.play_allowed _ turns trivial hcalls) hs

def typed (id slug : String) (schema : Json) : ContentType :=
  ⟨id, "", slug, "", .active, schema, .null, [], "", ⟨0, 0⟩, ⟨0, 0⟩⟩

theorem not_shares_of_nil (h : s.slugs = []) : ¬s.Shares := by
  rintro ⟨_, _, _, _, -, hslug, -⟩
  simp [Site.slug?, h] at hslug

def putsBackFree (m : Moment SlugEvent Site) : Bool :=
  match m.event with
  | .release environment typeId (some slug) => !m.before.isTaken environment typeId slug
  | _ => true

theorem not_disputed {m : Moment SlugEvent Site} (h : putsBackFree m = true) : ¬Disputed m := by
  rintro ⟨environment, typeId, slug, other, hevent, hne, hother⟩
  have htaken := Site.isTaken_of_slug? hother hne
  simp [putsBackFree, hevent, htaken] at h

def contested : World SlugEvent Site Unit :=
  sideBySide { bare with validates := true }
    [(.empty, .empty, .create (typed "1" "pages" (.obj []))),
      (.empty, .empty, .create (typed "1" "posts" .null)),
      (.empty, .empty, .create (typed "2" "pages" (.obj [])))]
    ⟨⟨0, 0⟩, 0⟩ ⟨.empty false, .empty, []⟩

def order (calls : List Nat) : List Turn := calls.map .call

/-- The slug of the first is put back before the other asks for it. -/
theorem slugs_exclusive_settled :
    let run := contested.play (order [0, 0, 0, 0, 0, 0, 1, 1, 1, 1, 2, 2])
    ¬contested.state.Shares ∧ run.2.finished = true ∧
      run.2.state.slugs = [⟨"", "1", "pages"⟩] ∧ ∀ m ∈ run.1, ¬m.after.Shares := by
  intro run
  have hstart : ¬contested.state.Shares := not_shares_of_nil rfl
  have hfree : run.1.all putsBackFree = true := by decide
  have hslugs : run.2.state.slugs = [⟨"", "1", "pages"⟩] := by decide
  have hexclusive := (slugs_exclusive _ _ _ _ hstart).2 fun m hm =>
    not_disputed (List.all_eq_true.1 hfree m hm)
  exact ⟨hstart, by decide, hslugs, hexclusive.1⟩

/-- The other has the slug of the first by the time it is put back. -/
theorem slug_shared :
    let run := contested.play (order [0, 0, 0, 0, 0, 0, 1, 1, 2, 2, 2, 2, 2, 2, 1, 1])
    ¬contested.state.Shares ∧ run.2.finished = true ∧ run.2.state.Shares := by
  intro run
  have hslugs : run.2.state.slugs = [⟨"", "2", "pages"⟩, ⟨"", "1", "pages"⟩] := by decide
  refine ⟨not_shares_of_nil rfl, by decide, "", "1", "2", "pages", by decide, ?_, ?_⟩
  · simp [Site.slug?, hslugs, Reservation.isOf]
  · simp [Site.slug?, hslugs, Reservation.isOf]

end Panel.Factory

end Backoffice

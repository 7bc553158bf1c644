import Backoffice.Module
import Backoffice.Proofs.Call
import Mathlib.Data.List.Induction
import Mathlib.Data.List.Nodup
import Mathlib.Logic.Relation

/-!
The modules of a back office sorted into those to load and those to skip.

Modules are taken in the order in which they were accepted (`Accepted`), each after those it depends
on. So one pass that looks only at what a module itself needs (`Sorted`) settles what it needs
through other modules too (`Sorted.mem_iff_all`, `Sorted.reason`), and the modules that are loaded
would be accepted without the others (`Sorted.accepted`).
-/

namespace Backoffice.Module

open Relation (TransGen ReflTransGen)

variable {ms : List Module} {m d : Module} {g : Feature.Gate} {ctx : Context}

def ids (ms : List Module) : List String := ms.map (·.id)

theorem ids_append (ms ms' : List Module) : ids (ms ++ ms') = ids ms ++ ids ms' := List.map_append

@[simp] theorem ids_concat (ms : List Module) (m : Module) : ids (ms ++ [m]) = ids ms ++ [m.id] :=
  ids_append ms [m]

theorem mem_ids {id : String} : id ∈ ids ms ↔ ∃ m ∈ ms, m.id = id := List.mem_map

theorem id_mem_ids (h : m ∈ ms) : m.id ∈ ids ms := List.mem_map_of_mem h

theorem ids_subset {ms' : List Module} (h : ms ⊆ ms') {id : String} (hid : id ∈ ids ms) :
    id ∈ ids ms' := List.map_subset _ h hid

def needs (m : Module) : List String := m.manifest.dependsOn.map Text.key

/-- A module asks for another one of the list. -/
def DependsOn (ms : List Module) (m d : Module) : Prop := d ∈ ms ∧ d.id ∈ m.needs

/-- The modules can be registered in this order. -/
def Accepted (ms : List Module) : Prop := ms.foldlM register [] = .ok ms

theorem register_eq_ok {ms' : List Module} :
    register ms m = .ok ms' ↔
      m.id ≠ "" ∧ m.id ∉ ids ms ∧ (∀ id ∈ m.needs, id ∈ ids ms) ∧ ms' = ms ++ [m] := by
  unfold register
  refine refuse_eq_ok.trans (and_congr (not_congr beq_iff_eq) ?_)
  refine refuse_eq_ok.trans (and_congr (not_congr List.contains_iff_mem) ?_)
  dsimp only
  split
  · rename_i id hid
    have hmem : id ∈ m.needs := List.mem_of_find?_eq_some hid
    have hmissing : id ∉ ids ms := by simpa [ids] using List.find?_some hid
    exact iff_of_false (by simp) fun h => hmissing (h.1 id hmem)
  · rename_i hall
    have hknown : ∀ id ∈ m.needs, id ∈ ids ms := by simpa [needs, ids] using hall
    exact ⟨fun h => ⟨hknown, (Except.ok.inj h).symm⟩, fun h => congrArg _ h.2.symm⟩

theorem accepted_nil : Accepted [] := rfl

theorem accepted_concat : Accepted (ms ++ [m]) ↔ Accepted ms ∧ register ms m = .ok (ms ++ [m]) := by
  have hgrows : ∀ ms ms' : List Module, ms.foldlM register [] = .ok ms' → ms' = ms := by
    intro ms
    induction ms using List.reverseRecOn with
    | nil => exact fun ms' h => by cases h; rfl
    | append_singleton ms m ih =>
      intro ms' h
      rw [List.foldlM_append] at h
      obtain ⟨known, hknown, h⟩ := bind_eq_ok.1 h
      rw [List.foldlM_cons] at h
      obtain ⟨all, hall, h⟩ := bind_eq_ok.1 h
      cases h
      rw [(register_eq_ok.1 hall).2.2.2, ih known hknown]
  unfold Accepted
  rw [List.foldlM_append]
  constructor
  · intro h
    obtain ⟨known, hknown, h⟩ := bind_eq_ok.1 h
    obtain ⟨all, hall, h⟩ := bind_eq_ok.1 h
    cases h
    cases hgrows ms known hknown
    exact ⟨hknown, hall⟩
  · rintro ⟨hms, hm⟩
    rw [hms, bind_eq_ok]
    exact ⟨ms, rfl, by rw [List.foldlM_cons, hm]; rfl⟩

theorem accepted_of_needs_nil (hneeds : ∀ m ∈ ms, m.needs = []) (hblank : "" ∉ ids ms)
    (hids : (ids ms).Nodup) : Accepted ms := by
  induction ms using List.reverseRecOn with
  | nil => exact accepted_nil
  | append_singleton ms m ih =>
    rw [ids_concat, List.mem_append, not_or] at hblank
    rw [ids_concat, List.nodup_append_comm] at hids
    obtain ⟨hnew, hids⟩ := List.nodup_cons.1 hids
    have hm : m.id ≠ "" := fun h => hblank.2 (h ▸ List.mem_cons_self)
    have hnone : ∀ id ∈ m.needs, id ∈ ids ms := by
      rw [hneeds m (List.mem_append_right _ List.mem_cons_self)]
      exact fun _ h => absurd h List.not_mem_nil
    refine accepted_concat.2 ⟨ih (fun d hd => hneeds d (List.mem_append_left _ hd)) hblank.1 hids, ?_⟩
    exact register_eq_ok.2 ⟨hm, hnew, hnone, rfl⟩

theorem Accepted.nodup (h : Accepted ms) : (ids ms).Nodup := by
  induction ms using List.reverseRecOn with
  | nil => exact List.nodup_nil
  | append_singleton ms m ih =>
    obtain ⟨hms, hm⟩ := accepted_concat.1 h
    rw [ids_concat, List.nodup_append_comm]
    exact List.nodup_cons.2 ⟨(register_eq_ok.1 hm).2.1, ih hms⟩

theorem Accepted.eq_of_id (h : Accepted ms) (hm : m ∈ ms) (hd : d ∈ ms) (hid : m.id = d.id) :
    m = d := List.inj_on_of_nodup_map h.nodup hm hd hid

theorem Accepted.needs_before {earlier later : List Module} (h : Accepted (earlier ++ m :: later)) :
    ∀ id ∈ m.needs, id ∈ ids earlier := by
  induction later using List.reverseRecOn with
  | nil => exact (register_eq_ok.1 (accepted_concat.1 h).2).2.2.1
  | append_singleton later last ih =>
    rw [← List.cons_append, ← List.append_assoc] at h
    exact ih (accepted_concat.1 h).1

theorem Accepted.before {all earlier later : List Module} (hall : Accepted all)
    (hms : earlier ⊆ all) (h : Accepted (earlier ++ m :: later))
    (hd : TransGen (DependsOn all) m d) : d ∈ earlier := by
  have hstep : ∀ {m d : Module} {earlier later : List Module}, earlier ⊆ all →
      Accepted (earlier ++ m :: later) → DependsOn all m d → d ∈ earlier := by
    intro m d earlier later hms h hd
    obtain ⟨d', hd', hid⟩ := List.mem_map.1 (h.needs_before d.id hd.2)
    exact hall.eq_of_id (hms hd') hd.1 hid ▸ hd'
  induction hd with
  | single hmd => exact hstep hms h hmd
  | @tail b c _ hbc ih =>
    obtain ⟨first, between, rfl⟩ := List.append_of_mem ih
    rw [List.append_assoc, List.cons_append] at h
    have hfirst : first ⊆ all := fun d hd => hms (List.mem_append_left _ hd)
    exact List.mem_append_left _ (hstep hfirst h hbc)

def isOn (g : Feature.Gate) (ctx : Context) (m : Module) : Prop :=
  ∀ f ∈ m.manifest.features, g.isEnabled ctx f = .ok true

theorem firstOff_eq_none {fs : List String} :
    firstOff g ctx fs = .ok none ↔ ∀ f ∈ fs, g.isEnabled ctx f = .ok true := by
  induction fs with
  | nil => simp [firstOff]
  | cons f fs ih =>
    rw [firstOff, bind_eq_ok, List.forall_mem_cons, ← ih]
    constructor
    · rintro ⟨on, hon, h⟩
      cases on with
      | true => exact ⟨hon, h⟩
      | false => cases h
    · rintro ⟨hon, h⟩
      exact ⟨true, hon, h⟩

theorem of_firstOff_eq_some {fs : List String} {f : String} (h : firstOff g ctx fs = .ok (some f)) :
    f ∈ fs ∧ g.isEnabled ctx f = .ok false := by
  induction fs with
  | nil => cases h
  | cons f' fs ih =>
    obtain ⟨on, hon, h⟩ := bind_eq_ok.1 h
    cases on with
    | true => exact ⟨List.mem_cons_of_mem _ (ih h).1, (ih h).2⟩
    | false =>
      cases h
      exact ⟨List.mem_cons_self, hon⟩

theorem skip?_eq_none {skipped : List Skipped} :
    m.skip? g ctx skipped = .ok none ↔
      m.isOn g ctx ∧ ∀ id ∈ m.needs, id ∉ skipped.map (·.moduleId) := by
  have hneeds : (m.manifest.dependsOn.findSome? fun d =>
      (skipped.find? (·.moduleId == Text.key d)).map fun s =>
        (⟨m.id, s.feature, "module " ++ m.id ++ " depends on skipped module " ++ d⟩ : Skipped)) =
          none ↔ ∀ id ∈ m.needs, id ∉ skipped.map (·.moduleId) := by
    simp [needs, List.findSome?_eq_none_iff, List.find?_eq_none]
  unfold skip?
  rw [bind_eq_ok, isOn, ← firstOff_eq_none, ← hneeds]
  constructor
  · rintro ⟨off, hoff, h⟩
    cases off with
    | some f => cases Except.ok.inj h
    | none => exact ⟨hoff, Except.ok.inj h⟩
  · rintro ⟨hon, h⟩
    exact ⟨none, hon, congrArg _ h⟩

theorem of_skip?_eq_some {skipped : List Skipped} {s : Skipped}
    (h : m.skip? g ctx skipped = .ok (some s)) :
    s.moduleId = m.id ∧
      ((s.feature ∈ m.manifest.features ∧ g.isEnabled ctx s.feature = .ok false) ∨
        ∃ s' ∈ skipped, s'.moduleId ∈ m.needs ∧ s'.feature = s.feature) := by
  unfold skip? at h
  obtain ⟨off, hoff, h⟩ := bind_eq_ok.1 h
  cases off with
  | some f =>
    simp only [Except.ok.injEq, Option.some.injEq] at h
    subst h
    exact ⟨rfl, .inl (of_firstOff_eq_some hoff)⟩
  | none =>
    simp only [Except.ok.injEq] at h
    obtain ⟨d, hd, h⟩ := List.exists_of_findSome?_eq_some h
    obtain ⟨s', hs', hs⟩ := Option.map_eq_some_iff.1 h
    subst hs
    refine ⟨rfl, .inr ⟨s', List.mem_of_find?_eq_some hs', ?_, rfl⟩⟩
    have hid := List.find?_some hs'
    rw [beq_iff_eq] at hid
    rw [hid]
    exact List.mem_map_of_mem hd

/-- The modules are sorted, one after the other, into those to load and those to skip. -/
inductive Sorted (g : Feature.Gate) (ctx : Context) :
    List Module → List Module → List Skipped → Prop
  | nil : Sorted g ctx [] [] []
  | load {ms loaded skipped m} : Sorted g ctx ms loaded skipped →
      m.skip? g ctx skipped = .ok none → Sorted g ctx (ms ++ [m]) (loaded ++ [m]) skipped
  | skip {ms loaded skipped m s} : Sorted g ctx ms loaded skipped →
      m.skip? g ctx skipped = .ok (some s) → Sorted g ctx (ms ++ [m]) loaded (skipped ++ [s])

namespace Sorted

variable {loaded : List Module} {skipped : List Skipped}

theorem sublist (h : Sorted g ctx ms loaded skipped) : loaded.Sublist ms := by
  induction h with
  | nil => exact .slnil
  | load _ _ ih => exact ih.append (List.Sublist.refl _)
  | skip _ _ ih => exact ih.trans (List.sublist_append_left _ _)

theorem partition (h : Sorted g ctx ms loaded skipped) (hms : Accepted ms) :
    loaded = ms.filter (fun m => (ids loaded).contains m.id) ∧
      skipped.map (·.moduleId) = ids (ms.filter fun m => !(ids loaded).contains m.id) := by
  induction h with
  | nil => exact ⟨rfl, rfl⟩
  | @load ms loaded skipped m _ _ ih =>
    obtain ⟨hms, hm⟩ := accepted_concat.1 hms
    have hold : ∀ m' ∈ ms, (ids (loaded ++ [m])).contains m'.id = (ids loaded).contains m'.id := by
      intro m' hm'
      have hne : m'.id ≠ m.id := fun h => (register_eq_ok.1 hm).2.1 (h ▸ id_mem_ids hm')
      simp [hne]
    obtain ⟨hloaded, hskipped⟩ := ih hms
    constructor
    · rw [List.filter_append, List.filter_congr hold, ← hloaded]
      simp
    · rw [List.filter_append, List.filter_congr fun m' hm' => congrArg not (hold m' hm'), hskipped]
      simp
  | @skip ms loaded skipped m s hsorted hskip ih =>
    obtain ⟨hms, hm⟩ := accepted_concat.1 hms
    have hnew : m.id ∉ ids loaded := fun h =>
      (register_eq_ok.1 hm).2.1 (ids_subset hsorted.sublist.subset h)
    obtain ⟨hloaded, hskipped⟩ := ih hms
    constructor
    · rw [List.filter_append, ← hloaded]
      simp [hnew]
    · rw [List.filter_append, ids_append, ← hskipped, List.map_append,
        List.filter_cons_of_pos (by simpa using hnew), List.filter_nil]
      simp [ids, (of_skip?_eq_some hskip).1]

theorem loaded_of_not_skipped (h : Sorted g ctx ms loaded skipped) (hms : Accepted ms) {id : String}
    (hid : id ∈ ids ms) : id ∉ skipped.map (·.moduleId) ↔ id ∈ ids loaded := by
  rw [(h.partition hms).2, mem_ids]
  obtain ⟨m, hm, hid⟩ := mem_ids.1 hid
  constructor
  · intro hnot
    by_contra hmissing
    exact hnot ⟨m, List.mem_filter.2 ⟨hm, by simpa [hid] using hmissing⟩, hid⟩
  · rintro hmem ⟨m', hm', hid'⟩
    have hmissing : m'.id ∉ ids loaded := by simpa using (List.mem_filter.1 hm').2
    rw [hid'] at hmissing
    exact hmissing hmem

theorem accepted (h : Sorted g ctx ms loaded skipped) (hms : Accepted ms) : Accepted loaded := by
  induction h with
  | nil => exact accepted_nil
  | @load ms loaded skipped m hsorted hload ih =>
    obtain ⟨hms, hm⟩ := accepted_concat.1 hms
    obtain ⟨hblank, hnew, hneeds, -⟩ := register_eq_ok.1 hm
    refine accepted_concat.2 ⟨ih hms, register_eq_ok.2 ⟨hblank, ?_, fun id hid => ?_, rfl⟩⟩
    · exact fun h => hnew (ids_subset hsorted.sublist.subset h)
    · exact (hsorted.loaded_of_not_skipped hms (hneeds id hid)).1 ((skip?_eq_none.1 hload).2 id hid)
  | skip _ _ ih => exact ih (accepted_concat.1 hms).1

theorem before (h : Sorted g ctx ms loaded skipped) (hms : Accepted ms)
    {earlier later : List Module} (hsplit : loaded = earlier ++ m :: later)
    (hd : TransGen (DependsOn ms) m d) : d ∈ earlier := by
  have hearlier : earlier ⊆ ms := fun d hd =>
    h.sublist.subset (hsplit ▸ List.mem_append_left _ hd)
  exact hms.before hearlier (hsplit ▸ h.accepted hms) hd

theorem isOn_of_mem (h : Sorted g ctx ms loaded skipped) (hm : m ∈ loaded) : m.isOn g ctx := by
  induction h with
  | nil => cases hm
  | load _ hload ih =>
    rcases List.mem_append.1 hm with hm | hm
    · exact ih hm
    · rw [List.mem_singleton.1 hm]
      exact (skip?_eq_none.1 hload).1
  | skip _ _ ih => exact ih hm

theorem reason {all : List Module} (h : Sorted g ctx ms loaded skipped) (hall : ms ⊆ all)
    {s : Skipped} (hs : s ∈ skipped) : ∃ m ∈ ms, m.id = s.moduleId ∧
      ∃ d, ReflTransGen (DependsOn all) m d ∧
        s.feature ∈ d.manifest.features ∧ g.isEnabled ctx s.feature = .ok false := by
  induction h generalizing s with
  | nil => cases hs
  | load _ _ ih =>
    obtain ⟨hms, -⟩ := List.append_subset.1 hall
    obtain ⟨m, hm, hreason⟩ := ih hms hs
    exact ⟨m, List.mem_append_left _ hm, hreason⟩
  | @skip ms loaded skipped m _ _ hskip ih =>
    obtain ⟨hms, -⟩ := List.append_subset.1 hall
    rcases List.mem_append.1 hs with hs | hs
    · obtain ⟨m', hm', hreason⟩ := ih hms hs
      exact ⟨m', List.mem_append_left _ hm', hreason⟩
    · rw [← List.mem_singleton.1 hs] at hskip
      obtain ⟨hid, hcause⟩ := of_skip?_eq_some hskip
      refine ⟨m, List.mem_append_right _ List.mem_cons_self, hid.symm, ?_⟩
      rcases hcause with ⟨hfeature, hoff⟩ | ⟨s', hs', hneeds, hfeature⟩
      · exact ⟨m, .refl, hfeature, hoff⟩
      · obtain ⟨m', hm', hid', d, hd, hreason⟩ := ih hms hs'
        rw [hfeature] at hreason
        exact ⟨d, .head ⟨hms hm', hid' ▸ hneeds⟩ hd, hreason⟩

theorem mem_iff (h : Sorted g ctx ms loaded skipped) (hms : Accepted ms) (hm : m ∈ ms) :
    m ∈ loaded ↔ m.isOn g ctx ∧ ∀ d, TransGen (DependsOn ms) m d → d ∈ loaded := by
  constructor
  · intro hmem
    refine ⟨h.isOn_of_mem hmem, fun d hd => ?_⟩
    obtain ⟨earlier, later, hsplit⟩ := List.append_of_mem hmem
    rw [hsplit]
    exact List.mem_append_left _ (h.before hms hsplit hd)
  · rintro ⟨hon, hdeps⟩
    by_contra hmem
    have hskipped : m.id ∈ skipped.map (·.moduleId) := by
      by_contra hnot
      obtain ⟨m', hm', hid⟩ := mem_ids.1 ((h.loaded_of_not_skipped hms (id_mem_ids hm)).1 hnot)
      exact hmem (hms.eq_of_id (h.sublist.subset hm') hm hid ▸ hm')
    obtain ⟨s, hs, hid⟩ := List.mem_map.1 hskipped
    obtain ⟨m', hm', hid', d, hd, hfeature, hoff⟩ := h.reason (List.Subset.refl ms) hs
    cases hms.eq_of_id hm' hm (hid'.trans hid)
    have hdon : d.isOn g ctx := by
      rcases Relation.reflTransGen_iff_eq_or_transGen.1 hd with rfl | hd
      · exact hon
      · exact h.isOn_of_mem (hdeps d hd)
    cases (hdon _ hfeature).symm.trans hoff

end Sorted

end Backoffice.Module

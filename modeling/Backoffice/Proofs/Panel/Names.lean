import Backoffice.Proofs.Panel.Isolation

namespace Backoffice

namespace Panel.Factory

def suffix (environment : String) : List Char :=
  if environment = "" then [] else '@' :: environment.toList

theorem toList_panelName (slug environment : String) :
    (panelName slug environment).toList = slug.toList ++ suffix environment := by
  unfold panelName suffix
  by_cases h : environment = "" <;> simp [h, String.toList_append]

theorem suffix_injective {a b : String} (h : suffix a = suffix b) : a = b := by
  unfold suffix at h
  split at h
  · rename_i ha
    split at h
    · rename_i hb
      rw [ha, hb]
    · cases h
  · split at h
    · cases h
    · exact String.toList_injective (List.cons.inj h).2

def Blends (a e b e' : String) : Prop :=
  e' ≠ "" ∧ ∃ x, a = b ++ "@" ++ x ∧ e' = panelName x e

theorem Blends.panelName_eq {a e b e' : String} (h : Blends a e b e') :
    panelName a e = panelName b e' := by
  obtain ⟨hne, x, rfl, rfl⟩ := h
  apply String.toList_injective
  rw [toList_panelName, toList_panelName, suffix, suffix, if_neg hne]
  simp [String.toList_append, toList_panelName, suffix]

theorem blends_of_append {a e b e' : String} {z : List Char} (ha : a.toList = b.toList ++ z)
    (he : suffix e' = z ++ suffix e) : (a = b ∧ e = e') ∨ Blends a e b e' := by
  cases z with
  | nil =>
    refine .inl ⟨String.toList_injective (by simpa using ha), ?_⟩
    exact (suffix_injective (by simpa using he)).symm
  | cons c x =>
    have hne : e' ≠ "" := by
      rintro rfl
      cases he
    rw [suffix, if_neg hne, List.cons_append] at he
    obtain ⟨rfl, hrest⟩ := List.cons.inj he
    refine .inr ⟨hne, String.ofList x, ?_, ?_⟩
    · apply String.toList_injective
      simp [ha, String.toList_append]
    · apply String.toList_injective
      simpa [toList_panelName] using hrest

theorem panelName_eq_iff {a e b e' : String} : panelName a e = panelName b e' ↔
    (a = b ∧ e = e') ∨ Blends a e b e' ∨ Blends b e' a e := by
  constructor
  · intro h
    have hlist := congrArg String.toList h
    rw [toList_panelName, toList_panelName, List.append_eq_append_iff] at hlist
    rcases hlist with ⟨z, hb, he⟩ | ⟨z, ha, he⟩
    · rcases blends_of_append hb he with ⟨rfl, rfl⟩ | hblends
      · exact .inl ⟨rfl, rfl⟩
      · exact .inr (.inr hblends)
    · exact (blends_of_append ha he).imp id .inl
  · rintro (⟨rfl, rfl⟩ | h | h)
    · rfl
    · exact h.panelName_eq
    · exact h.panelName_eq.symm

end Panel.Factory

namespace Reservation

open Panel.Factory (Blends panelName_eq_iff)

variable {r r' : Reservation}

def panelName (r : Reservation) : String := Panel.Factory.panelName r.slug r.environment

@[simp] theorem panelName_mk (environment typeId slug : String) :
    panelName ⟨environment, typeId, slug⟩ = Panel.Factory.panelName slug environment := rfl

/-- The marks in slugs and environments make two names the same. -/
def Confusable (r r' : Reservation) : Prop :=
  Blends r.slug r.environment r'.slug r'.environment ∨
    Blends r'.slug r'.environment r.slug r.environment

structure Plain (r : Reservation) : Prop where
  environment : '@' ∉ r.environment.toList
  slug : r.environment = "" → '@' ∉ r.slug.toList

theorem Plain.not_blends (hr : r.Plain) (hr' : r'.Plain) :
    ¬Blends r.slug r.environment r'.slug r'.environment := by
  rintro ⟨-, x, hslug, henvironment⟩
  by_cases hempty : r.environment = ""
  · exact hr.slug hempty (by simp [hslug, String.toList_append])
  · refine hr'.environment ?_
    simp [henvironment, Panel.Factory.toList_panelName, Panel.Factory.suffix, hempty]

theorem Plain.not_confusable (hr : r.Plain) (hr' : r'.Plain) : ¬r.Confusable r' :=
  fun h => h.elim (hr.not_blends hr') (hr'.not_blends hr)

end Reservation

theorem Site.Exclusive.panelName_eq_iff {s : Site} {r r' : Reservation} (hs : s.Exclusive)
    (hr : r ∈ s.slugs) (hr' : r' ∈ s.slugs) (hne : r.typeId ≠ r'.typeId) :
    r.panelName = r'.panelName ↔ r.Confusable r' := by
  refine Panel.Factory.panelName_eq_iff.trans ⟨fun h => ?_, .inr⟩
  rcases h with ⟨hslug, henvironment⟩ | h
  · exact absurd (congrArg Reservation.typeId (hs.eq hr hr' henvironment (.inr hslug))) hne
  · exact h

namespace Panel.Factory

open Call (Ensures)

variable {f : Factory} {runtime : Workflow.Runtime} {ctx : Context} {s t : Site} {c : ContentType}

def asked (ctx : Context) (c : ContentType) : Reservation :=
  ⟨environmentFor ctx c, c.id, c.panelSlug⟩

theorem panelName_asked (ctx : Context) (c : ContentType) :
    (asked ctx c).panelName = ownName ctx c := by
  rw [asked, Reservation.panelName_mk, ownName]

/-- The slug that the content type of a request asks for, or one that it has. -/
def Request.Uses (ctx : Context) (s : Site) (q : Request) (r : Reservation) : Prop :=
  r = asked ctx q.subject ∨
    r ∈ s.slugs ∧ r.isOf (environmentFor ctx q.subject) q.subject.id = true

theorem Request.exists_used {q : Request} {name : String} (hc : q.exposes = true)
    (h : q.names ctx s name) : ∃ own, q.Uses ctx s own ∧ own.panelName = name := by
  have hasked (c : ContentType) (hname : name = ownName ctx c) :
      (asked ctx c).panelName = name := (panelName_asked ctx c).trans hname.symm
  cases q with
  | create c =>
    have hexposes : c.status.exposesPanel = true := hc
    rw [names, if_pos hexposes] at h
    exact ⟨asked ctx c, .inl rfl, hasked c h⟩
  | refresh c =>
    rcases h with h | ⟨old, hold, h⟩
    · exact ⟨asked ctx c, .inl rfl, hasked c h⟩
    · refine ⟨⟨environmentFor ctx c, c.id, old⟩, .inr ⟨Site.mem_of_slug? hold, ?_⟩, ?_⟩
      · simp [Reservation.isOf, subject]
      · rw [Reservation.panelName_mk, h]
  | remove c => cases hc

theorem ensures_call_spares {q : Request} {r : Reservation} (hs : Reachable f s)
    (hc : q.exposes = true) (hr : r ∈ s.slugs) (hne : r.typeId ≠ q.subject.id)
    (hplain : ∀ own, q.Uses ctx s own → ¬own.Confusable r) :
    (q.call f runtime ctx).Ensures s fun _ t => s.registry.SameAt t.registry r.panelName := by
  intro supply
  by_cases htaken : r.slug = q.subject.panelSlug ∧ r.environment = environmentFor ctx q.subject
  · -- the slug asked for is the one of the other content type, so the request is refused
    have hslug : s.slug? (environmentFor ctx q.subject) r.typeId = some q.subject.panelSlug := by
      rw [← htaken.1, ← htaken.2]
      exact hs.exclusive.mem_slugs_iff.1 hr
    have hblank : q.subject.panelSlug ≠ "" := htaken.1 ▸ hs.exclusive.named r hr
    rw [ensures_call_taken hc hblank (Site.isTaken_of_slug? hslug hne) supply]
    exact .refl _ _
  · refine (ensures_call_confined f runtime ctx s q supply).registry _ fun hname => ?_
    obtain ⟨own, hown, heq⟩ := Request.exists_used hc hname
    rcases panelName_eq_iff.1 heq with ⟨hslug, henvironment⟩ | hconfusable
    · rcases hown with rfl | ⟨hmem, hof⟩
      · dsimp only [asked] at hslug henvironment
        exact htaken ⟨hslug.symm, henvironment.symm⟩
      · have htype := congrArg Reservation.typeId
          (hs.exclusive.eq hmem hr henvironment (.inr hslug))
        exact hne (htype.symm.trans (Reservation.isOf_iff.1 hof).2)
    · exact hplain own hown hconfusable

theorem names_exclusive (hs : Reachable f s) :
    (∀ r ∈ s.slugs, ∀ r' ∈ s.slugs, r.typeId ≠ r'.typeId →
        (r.panelName = r'.panelName ↔ r.Confusable r')) ∧
      ∀ runtime ctx (q : Request), q.exposes = true → ∀ r ∈ s.slugs, r.typeId ≠ q.subject.id →
        (∀ own, q.Uses ctx s own → ¬own.Confusable r) →
          (q.call f runtime ctx).Ensures s fun _ t => s.registry.SameAt t.registry r.panelName :=
  ⟨fun _ hr _ hr' => hs.exclusive.panelName_eq_iff hr hr',
    fun _ _ _ hc _ hr hne => ensures_call_spares hs hc hr hne⟩

def lodged (id slug environment : String) : ContentType :=
  ⟨id, "", slug, "", .active, .obj [], .null, [], environment, ⟨0, 0⟩, ⟨0, 0⟩⟩

def bareAfter (q : Request) (s : Site) : Site :=
  (q.call bare .empty .empty (⟨⟨0, 0⟩, 0⟩, s)).2.2

def vacantSite : Site := ⟨.empty false, .empty, []⟩

theorem names_exclusive_environments :
    let s := bareAfter (.create (lodged "2" "pages" "live"))
      (bareAfter (.create (lodged "1" "pages" "staging")) vacantSite)
    Reachable bare s ∧
      s.slugs = [⟨"staging", "1", "pages"⟩, ⟨"live", "2", "pages"⟩] ∧
      Reservation.panelName ⟨"staging", "1", "pages"⟩ ≠
        Reservation.panelName ⟨"live", "2", "pages"⟩ := by
  intro s
  have hs : Reachable bare s := .call (.call (.start rfl))
  have hslugs : s.slugs = [⟨"staging", "1", "pages"⟩, ⟨"live", "2", "pages"⟩] := by
    decide +kernel
  refine ⟨hs, hslugs, fun heq => ?_⟩
  have hconfusable := ((names_exclusive hs).1 _ (by simp [hslugs]) _ (by simp [hslugs])
    (by decide)).1 heq
  exact Reservation.Plain.not_confusable ⟨by decide, by decide⟩ ⟨by decide, by decide⟩ hconfusable

/-- Both content types are recorded, and there is one panel, that of the second. -/
theorem panel_of_other_taken :
    let s := bareAfter (.create (lodged "1" "pages@staging" "")) vacantSite
    let t := bareAfter (.create (lodged "2" "pages" "staging")) s
    Reachable bare t ∧
      t.slugs = [⟨"", "1", "pages@staging"⟩, ⟨"staging", "2", "pages"⟩] ∧
      Reservation.panelName ⟨"", "1", "pages@staging"⟩ =
        Reservation.panelName ⟨"staging", "2", "pages"⟩ ∧
      t.registry.names = ["pages@staging"] ∧
      (s.registry.get? "pages@staging").map (·.label) = some "pages@staging" ∧
      (t.registry.get? "pages@staging").map (·.label) = some "pages" := by
  exact ⟨.call (.call (.start rfl)), by decide +kernel⟩

end Panel.Factory

end Backoffice

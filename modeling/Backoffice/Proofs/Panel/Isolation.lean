import Backoffice.Proofs.Panel.Factory

namespace Backoffice.Panel.Factory

open Call (Ensures Fails ensures_pure ensures_reads quiet_ofExcept)
open Site (Confined Footprint ends_refused ensures_reserve)

inductive Request where
  | create (c : ContentType)
  | refresh (c : ContentType)
  | remove (c : ContentType)

namespace Request

def subject : Request → ContentType
  | create c | refresh c | remove c => c

def call (f : Factory) (runtime : Workflow.Runtime) (ctx : Context) : Request → Call Site Unit
  | create c => do let _ ← f.create runtime ctx c
  | refresh c => do let _ ← f.refresh runtime ctx c
  | remove c => f.remove ctx c

def after : ContentType.Event → Request
  | .created c => create c
  | .updated c => refresh c
  | .deleted c => remove c

def exposes : Request → Bool
  | create c | refresh c => c.status.exposesPanel
  | remove _ => false

def names (ctx : Context) (s : Site) : Request → String → Prop
  | create c, name => name = if c.status.exposesPanel then ownName ctx c else goneName s ctx c
  | refresh c, name => name = ownName ctx c ∨
    ∃ old, s.slug? (environmentFor ctx c) c.id = some old ∧
      name = panelName old (environmentFor ctx c)
  | remove c, name => name = goneName s ctx c

def items (f : Factory) (ctx : Context) (s : Site) (q : Request) (code : String)
    (i : Menu.Item) : Prop :=
  f.Linked (f.itemId q.subject q.subject.panelSlug (ownName ctx q.subject)) (ownName ctx q.subject)
      s code i ∨
    ∃ name, q.names ctx s name ∧ s.Attached name code i

def footprint (f : Factory) (ctx : Context) (s : Site) (q : Request) : Footprint :=
  scope ctx q.subject (q.names ctx s) (q.items f ctx s)

end Request

variable {f : Factory} {runtime : Workflow.Runtime} {ctx : Context} {s t : Site} {c : ContentType}

theorem follow_eq_call (f : Factory) (runtime : Workflow.Runtime) (ctx : Context)
    (e : ContentType.Event) : f.follow runtime ctx e = (Request.after e).call f runtime ctx := by
  cases e <;> rfl

theorem Request.admits (f : Factory) (ctx : Context) (s : Site) (q : Request) :
    f.Admits ctx q.subject (q.names ctx s) (q.items f ctx s) s where
  attached name hname _ _ h := .inr ⟨name, hname, h⟩
  linked _ _ h := .inl h

theorem ensures_createAt_confined {names : String → Prop} {items : String → Menu.Item → Prop}
    (runtime : Workflow.Runtime) (hs : f.Admits ctx c names items s)
    (hown : c.status.exposesPanel = true → names (ownName ctx c))
    (hgone : c.status.exposesPanel = false → names (goneName s ctx c)) (position : Option Int) :
    (f.createAt runtime ctx c position).Ensures s
      (Site.Ends (scope ctx c names items) s fun _ => True) := by
  cases hc : c.status.exposesPanel with
  | true =>
    exact (ensures_createAt_exposed hc hs (hown hc) runtime position).imp
      fun _ _ h => ⟨h.confined, fun _ _ => trivial⟩
  | false =>
    exact (ensures_createAt_hidden hc hs (hgone hc) runtime position).imp
      fun _ _ h => ⟨h.confined, fun _ _ => trivial⟩

theorem ensures_call_confined (f : Factory) (runtime : Workflow.Runtime) (ctx : Context) (s : Site)
    (q : Request) :
    (q.call f runtime ctx).Ensures s fun _ t => Confined (q.footprint f ctx s) s t := by
  have hadmits := q.admits f ctx s
  cases q with
  | create c =>
    have hcreate := ensures_createAt_confined runtime hadmits
      (fun hc => (if_pos hc).symm) (fun hc => (if_neg (Bool.eq_false_iff.1 hc)).symm) none
    exact hcreate.bind (fun _ _ h => ensures_pure h.confined) fun _ _ h => h.confined
  | refresh c =>
    have hrefresh := ensures_refresh runtime hadmits (.inl rfl)
      (fun old h => .inr ⟨old, h, rfl⟩) fun t position ht hgone =>
        ensures_createAt_confined runtime ht (fun _ => .inl rfl) (fun _ => hgone) position
    exact hrefresh.bind (fun _ _ h => ensures_pure h.confined) fun _ _ h => h.confined
  | remove c => exact (ensures_remove hadmits rfl).imp fun _ _ h => h.confined

/-- Sites on which slugs were reserved by calls alone. Registry and menus belong to others as
well. -/
inductive Reachable (f : Factory) : Site → Prop
  | start {s : Site} : s.slugs = [] → Reachable f s
  | elsewhere {s t : Site} : Reachable f s → t.slugs = s.slugs → Reachable f t
  | call {s : Site} {runtime : Workflow.Runtime} {ctx : Context} {q : Request} {supply : Supply} :
    Reachable f s → Reachable f (q.call f runtime ctx (supply, s)).2.2

theorem Reachable.exclusive (h : Reachable f s) : s.Exclusive := by
  induction h with
  | start h => constructor <;> simp [h]
  | elsewhere _ h ih => exact ih.congr h
  | @call s runtime ctx q supply _ ih =>
    exact (ensures_call_confined f runtime ctx s q supply).exclusive ih

theorem fails_createAt_taken (hc : c.status.exposesPanel = true) (hslug : c.panelSlug ≠ "")
    (htaken : s.isTaken (environmentFor ctx c) c.id c.panelSlug = true) (position : Option Int) :
    (f.createAt runtime ctx c position).Fails s fun t => t = s := by
  refine (quiet_ofExcept _).fails rfl fun _ => ?_
  dsimp only
  rw [if_pos hc, if_neg fun h => hslug (beq_iff_eq.1 h)]
  refine Fails.bind (ensures_reserve (fun hfree => ?_) fun e _ => ⟨rfl, e, rfl⟩)
  cases htaken.symm.trans hfree

theorem fails_refresh_taken (hc : c.status.exposesPanel = true) (hslug : c.panelSlug ≠ "")
    (htaken : s.isTaken (environmentFor ctx c) c.id c.panelSlug = true) :
    (f.refresh runtime ctx c).Fails s fun t => t = s := by
  refine (quiet_ofExcept _).fails rfl fun _ => Ensures.seq (ensures_reads ?_)
  dsimp only
  split
  · exact fails_createAt_taken hc hslug htaken none
  · have hexposes : (c.status.exposesPanel && c.panelSlug != "") = true := by simp [hc, hslug]
    rw [hexposes]
    refine Fails.bind (Fails.bind (ensures_reserve (fun hfree => ?_) fun e _ => ⟨rfl, e, rfl⟩))
    cases htaken.symm.trans hfree

theorem panelName_injective {a b environment : String}
    (h : panelName a environment = panelName b environment) : a = b := by
  unfold panelName at h
  split at h
  · exact h
  · have hlist := congrArg String.toList h
    simp only [String.toList_append, List.append_cancel_right_eq] at hlist
    exact String.toList_injective hlist

def Neighbour (ctx : Context) (c : ContentType) (s : Site) (name : String) : Prop :=
  ∃ id slug, id ≠ c.id ∧ s.slug? (environmentFor ctx c) id = some slug ∧
    name = panelName slug (environmentFor ctx c)

/-- The call reaches no further than its content type, and to no other one of the environment unless
that has the name of a content type which neither has a slug of its own nor is to have a panel. -/
structure Isolated (f : Factory) (ctx : Context) (q : Request) (s t : Site) : Prop where
  confined : Confined (q.footprint f ctx s) s t
  neighbours : ∀ name, Neighbour ctx q.subject s name →
    (name = ownName ctx q.subject → q.exposes = true ∨
      s.slug? (environmentFor ctx q.subject) q.subject.id = some q.subject.panelSlug) →
    s.registry.SameAt t.registry name

theorem Neighbour.ne_panelName {name old : String} (hname : Neighbour ctx c s name)
    (hs : s.Exclusive) (hold : s.slug? (environmentFor ctx c) c.id = some old) :
    name ≠ panelName old (environmentFor ctx c) := by
  obtain ⟨id, slug, hid, hslug, hpanel⟩ := hname
  intro heq
  obtain rfl := panelName_injective (hpanel.symm.trans heq)
  exact hid (hs.typeId_eq hslug hold)

theorem Neighbour.ne_goneName {name : String} (hname : Neighbour ctx c s name) (hs : s.Exclusive)
    (hown : name ≠ ownName ctx c) : name ≠ goneName s ctx c := by
  unfold goneName
  cases hold : s.slug? (environmentFor ctx c) c.id with
  | none => exact hown
  | some old => exact hname.ne_panelName hs hold

theorem Neighbour.not_names {q : Request} {name : String}
    (hname : Neighbour ctx q.subject s name) (hs : s.Exclusive)
    (hown : name ≠ ownName ctx q.subject) : ¬q.names ctx s name := by
  have hgone := hname.ne_goneName hs hown
  cases q with
  | create c =>
    cases hc : c.status.exposesPanel with
    | true => simpa [Request.names, Request.subject, hc] using hown
    | false => simpa [Request.names, Request.subject, hc] using hgone
  | refresh c =>
    rintro (h | ⟨old, hold, h⟩)
    · exact hown h
    · exact hname.ne_panelName hs hold h
  | remove c => exact hgone

theorem ensures_call_taken {q : Request} (hc : q.exposes = true) (hslug : q.subject.panelSlug ≠ "")
    (htaken : s.isTaken (environmentFor ctx q.subject) q.subject.id q.subject.panelSlug = true) :
    (q.call f runtime ctx).Ensures s fun _ t => t = s := by
  cases q with
  | create c => exact Fails.leaves (Fails.bind (fails_createAt_taken hc hslug htaken none))
  | refresh c => exact Fails.leaves (Fails.bind (fails_refresh_taken hc hslug htaken))
  | remove c => cases hc

theorem calls_isolated (hs : Reachable f s) (runtime : Workflow.Runtime) (ctx : Context) :
    (∀ q : Request, (q.call f runtime ctx).Ensures s fun _ t => Isolated f ctx q s t) ∧
      ∀ e, (f.follow runtime ctx e).Ensures s fun _ t => Isolated f ctx (.after e) s t := by
  have hcalls : ∀ q : Request,
      (q.call f runtime ctx).Ensures s fun _ t => Isolated f ctx q s t := by
    intro q supply
    have hconfined := ensures_call_confined f runtime ctx s q supply
    refine ⟨hconfined, fun name hname hown => ?_⟩
    by_cases heq : name = ownName ctx q.subject
    · -- the neighbour has the slug of the content type, which is refused or has it as well
      obtain ⟨id, slug, hid, hslug, hpanel⟩ := hname
      have hsame : slug = q.subject.panelSlug := panelName_injective (hpanel.symm.trans heq)
      rw [hsame] at hslug
      rcases hown heq with hexposes | hmine
      · have hblank := hs.exclusive.named _ (Site.mem_of_slug? hslug)
        rw [ensures_call_taken hexposes hblank (Site.isTaken_of_slug? hslug hid) supply]
        exact .refl _ _
      · exact absurd (hs.exclusive.typeId_eq hslug hmine) hid
    · exact hconfined.registry name (hname.not_names hs.exclusive heq)
  refine ⟨hcalls, fun e => ?_⟩
  rw [follow_eq_call]
  exact hcalls _

def bare : Factory :=
  ⟨"admin", none, "/admin", false, false, false, false, none, false, false, .empty⟩

def host (name : String) : Panel :=
  ⟨name, "Host", .table name, .empty, [], [], .ofBase name, none, false, none, [], false, false,
    false, false, .allowAll, .none, false⟩

def pages (status : ContentType.Status) (environment : String) : ContentType :=
  ⟨"1", "pages", "pages", "", status, .obj [], .null, [], environment, ⟨0, 0⟩, ⟨0, 0⟩⟩

def hosted (name : String) : Site := ⟨(Registry.empty false).put (host name), .empty, []⟩

theorem calls_isolated_hosted :
    Reachable bare (hosted "orders") ∧
      (hosted "orders").registry.SameAt ((bare.follow .empty .empty (.created (pages .active "")))
        (⟨⟨0, 0⟩, 0⟩, hosted "orders")).2.2.registry "orders" := by
  have hs : Reachable bare (hosted "orders") := .start rfl
  have hcall := (calls_isolated hs .empty .empty).2 (.created (pages .active "")) ⟨⟨0, 0⟩, 0⟩
  refine ⟨hs, hcall.confined.registry "orders" fun h => ?_⟩
  have hne : "orders" ≠ ownName .empty (pages .active "") := by decide
  exact hne h

/-- A panel of the host gives way to that of a content type with the same name. -/
theorem host_panel_replaced :
    ∃ registry, (Registry.empty false).register (host "pages") = .ok registry ∧
      let s : Site := ⟨registry, .empty, []⟩
      let t := ((Request.create (pages .active "")).call bare .empty .empty (⟨⟨0, 0⟩, 0⟩, s)).2.2
      Reachable bare s ∧ (s.registry.get? "pages").map (·.label) = some "Host" ∧
        (t.registry.get? "pages").map (·.label) = some "pages" := by
  refine ⟨(hosted "pages").registry, rfl, .start rfl, ?_, ?_⟩ <;> decide

end Backoffice.Panel.Factory

import Backoffice.Proofs.Panel.Mirror
import Backoffice.Proofs.Sorting
import Backoffice.Proofs.Text.Key

namespace Backoffice

open Call (Ensures ensures_atomic ensures_now ensures_pure)

namespace Dashboard

structure Preferences.Settled (codes : List String) (p : Preferences) : Prop where
  layout : p.layout.Nodup
  hidden : p.hidden.Nodup
  registered : ∀ code ∈ p.layout ++ p.hidden, code ∈ codes

/-- Widgets have distinct keys that are not empty, and what is saved is settled. -/
structure Orderly (d : Dashboard) : Prop where
  distinct : d.codes.Nodup
  named : ∀ code ∈ d.codes, code ≠ ""
  saved : ∀ user p, d.preferences.get? user = some p → p.Settled d.codes

variable {d d' : Dashboard} {w : Widget} {p saved : Preferences} {ctx : Context} {now : Instant}
  {authorizer : Authorizer} {registry : Panel.Registry} {s : Services} {I : Services → Prop}

theorem codes_concat (d : Dashboard) (w : Widget) :
    { d with widgets := d.widgets ++ [w] }.codes = d.codes ++ [Text.key w.code] := by
  simp [codes]

theorem register_eq_ok (h : d.register w = .ok d') :
    Text.key w.code ≠ "" ∧ Text.key w.code ∉ d.codes ∧
      d' = { d with widgets := d.widgets ++ [w] } := by
  unfold register at h
  dsimp only at h
  split at h
  · cases h
  rename_i hempty
  split at h
  · cases h
  rename_i hnew
  cases h
  exact ⟨mt beq_iff_eq.2 hempty, by simpa using hnew, rfl⟩

theorem save_eq_ok (h : d.save ctx now p = .ok (saved, d')) :
    ∃ actor, ctx.actor = some actor ∧ saved = { p.normalized with updatedAt := some now } ∧
      (∀ code ∈ saved.layout ++ saved.hidden, code ∈ d.codes) ∧
      d' = { d with preferences := d.preferences.set actor.id saved } := by
  obtain ⟨-, -, h⟩ := bind_eq_ok.1 h
  obtain ⟨actor, hactor, h⟩ := bind_eq_ok.1 h
  have hsome : ctx.actor = some actor := by
    unfold Context.requireActor at hactor
    split at hactor
    · cases hactor
      assumption
    · cases hactor
  dsimp only at h
  split at h
  · cases h
  rename_i hknown
  cases h
  refine ⟨actor, hsome, rfl, fun code hcode => ?_, rfl⟩
  simpa using List.find?_eq_none.1 hknown code hcode

theorem settled_normalized {codes : List String}
    (h : ∀ code ∈ p.normalized.layout ++ p.normalized.hidden, code ∈ codes) :
    p.normalized.Settled codes :=
  ⟨Text.nodup_distinctKeys p.layout, Text.nodup_distinctKeys p.hidden, h⟩

namespace Orderly

theorem bare : Orderly Dashboard.empty where
  distinct := .nil
  named _ h := by cases h
  saved _ _ h := by cases h

theorem registered (hd : d.Orderly) (h : d.register w = .ok d') : d'.Orderly := by
  obtain ⟨hne, hnew, rfl⟩ := register_eq_ok h
  constructor
  case distinct =>
    rw [codes_concat]
    exact List.Nodup.append hd.distinct (List.nodup_singleton _) (List.disjoint_singleton.2 hnew)
  case named =>
    intro code hcode
    rw [codes_concat, List.mem_append, List.mem_singleton] at hcode
    rcases hcode with hcode | rfl
    · exact hd.named code hcode
    · exact hne
  case saved =>
    intro user p hp
    have hsettled := hd.saved user p hp
    refine ⟨hsettled.layout, hsettled.hidden, fun code hcode => ?_⟩
    rw [codes_concat]
    exact List.mem_append_left _ (hsettled.registered code hcode)

theorem save (hd : d.Orderly) (h : d.save ctx now p = .ok (saved, d')) : d'.Orderly := by
  obtain ⟨actor, -, rfl, hknown, rfl⟩ := save_eq_ok h
  refine ⟨hd.distinct, hd.named, fun user q hq => ?_⟩
  rw [Dict.get?_set] at hq
  split at hq
  · cases hq
    have hsettled := settled_normalized hknown
    exact ⟨hsettled.layout, hsettled.hidden, hsettled.registered⟩
  · exact hd.saved user q hq

theorem key_of_mem {code : String} (h : code ∈ d.codes) : Text.key code = code := by
  obtain ⟨w, -, rfl⟩ := List.mem_map.1 h
  exact Text.key_key w.code

theorem settled (hd : d.Orderly) (user : String) : (d.preferencesFor user).Settled d.codes := by
  have hnone : Preferences.none.Settled d.codes := ⟨.nil, .nil, fun _ h => by cases h⟩
  unfold preferencesFor
  split
  · exact hnone
  · cases hp : d.preferences.get? user with
    | none => exact hnone
    | some p => exact hd.saved user p hp

end Orderly

theorem preferencesFor_save (h : d.save ctx now p = .ok (saved, d')) {user : String}
    (hother : user ≠ ctx.userId) : d'.preferencesFor user = d.preferencesFor user := by
  obtain ⟨actor, hactor, -, -, rfl⟩ := save_eq_ok h
  have hne : user ≠ actor.id := by
    rwa [Context.userId, hactor] at hother
  unfold preferencesFor
  rw [Dict.get?_set_ne _ hne]

theorem ordered_eq (hnodup : p.layout.Nodup) :
    d.ordered p = p.layout.flatMap (fun code => d.widgets.filter (Text.key ·.code == code)) ++
      d.widgets.filter (fun w => !p.layout.contains (Text.key w.code)) := by
  have hrank : ∀ code, p.rank code = p.layout.idxOf code := by
    intro code
    rw [Preferences.rank, List.idxOf, List.findIdx_eq_getD_findIdx?]
  rw [← mergeSort_idxOf hnodup, ordered]
  simp only [hrank]

theorem shows_iff : shows authorizer ctx p w = true ↔ Text.key w.code ∉ p.hidden ∧
    ∀ permission, w.permission = some permission → authorizer ctx permission resource = true := by
  unfold shows
  cases w.permission <;> simp

def visible (d : Dashboard) (authorizer : Authorizer) (ctx : Context) (p : Preferences) :
    List String :=
  (d.widgets.filter (shows authorizer ctx p)).map fun w => Text.key w.code

theorem nodup_visible (hd : d.Orderly) : (d.visible authorizer ctx p).Nodup :=
  hd.distinct.sublist (List.filter_sublist.map _)

theorem flatMap_filter_beq {names known : List String} (h : known.Nodup) :
    names.flatMap (fun name => known.filter (· == name)) = names.filter known.contains := by
  induction names with
  | nil => rfl
  | cons name rest ih =>
    rw [List.flatMap_cons, ih, List.filter_cons, List.filter_beq]
    by_cases hname : name ∈ known
    · simp [hname, List.count_eq_one_of_mem h hname]
    · simp [hname, List.count_eq_zero_of_not_mem hname]

theorem codes_ordered (hd : d.Orderly) (hnodup : p.layout.Nodup) :
    ((d.ordered p).filter (shows authorizer ctx p)).map (fun w => Text.key w.code) =
      p.layout.filter (d.visible authorizer ctx p).contains ++
        (d.visible authorizer ctx p).filter (!p.layout.contains ·) := by
  have hselect : ∀ q : String → Bool,
      ((d.widgets.filter fun w => q (Text.key w.code)).filter (shows authorizer ctx p)).map
        (fun w => Text.key w.code) = (d.visible authorizer ctx p).filter q := by
    intro q
    rw [visible, List.filter_map, List.filter_comm]
    rfl
  rw [ordered_eq hnodup, List.filter_append, List.map_append, List.filter_flatMap, List.map_flatMap,
    hselect (!p.layout.contains ·), ← flatMap_filter_beq (nodup_visible hd)]
  congr 2
  funext code
  exact hselect (· == code)

/-- As long as the services satisfy `I`, the widget is drawn, and they satisfy it afterwards. -/
def Widget.DrawnWithin (I : Services → Prop) (registry : Panel.Registry) (ctx : Context)
    (w : Widget) : Prop :=
  ∀ s, I s → (w.content.draw registry ctx).Ensures s fun r t => I t ∧ ∃ data, r = .ok data

structure Drawn (I : Services → Prop) (registry : Panel.Registry) (ctx : Context) (w : Widget)
    (t : Tile) : Prop where
  code : t.code = Text.key w.code
  title : t.title = w.title
  data : ∃ supply s, I s ∧ (w.content.draw registry ctx (supply, s)).1 = .ok t.data

theorem ensures_draw (hdraw : w.DrawnWithin I registry ctx) (hs : I s) :
    (w.draw registry ctx).Ensures s fun r u => I u ∧ ∃ t, r = .ok t ∧ Drawn I registry ctx w t := by
  intro supply
  obtain ⟨hu, data, hdata⟩ := hdraw s hs supply
  have hrun : w.content.draw registry ctx (supply, s) =
      (.ok data, (w.content.draw registry ctx (supply, s)).2) := Prod.ext hdata rfl
  rw [Widget.draw, Call.bind_apply_ok hrun]
  exact ⟨hu, _, rfl, rfl, rfl, supply, s, hs, hdata⟩

theorem ensures_drawAll {ws : List Widget} (hdraw : ∀ w ∈ ws, w.DrawnWithin I registry ctx)
    (hs : I s) : (ws.mapM (Widget.draw registry ctx)).Ensures s fun r u =>
      I u ∧ ∃ tiles, r = .ok tiles ∧ List.Forall₂ (Drawn I registry ctx) ws tiles := by
  induction ws generalizing s with
  | nil => exact ensures_pure ⟨hs, [], rfl, .nil⟩
  | cons w rest ih =>
    have hrest : ∀ u ∈ rest, u.DrawnWithin I registry ctx := fun u hu =>
      hdraw u (List.mem_cons_of_mem w hu)
    rw [List.mapM_cons]
    refine (ensures_draw (hdraw w List.mem_cons_self) hs).bind ?_ ?_
    · rintro t u ⟨hu, _, ⟨⟩, ht⟩
      refine (ih hrest hu).bind ?_ ?_
      · rintro tiles u' ⟨hu', _, ⟨⟩, htiles⟩
        exact ensures_pure ⟨hu', _, rfl, .cons ht htiles⟩
      · rintro e u' ⟨-, _, ⟨⟩, -⟩
    · rintro e u ⟨-, _, ⟨⟩, -⟩

def Tile.codes (tiles : List Tile) : List String := tiles.map (·.code)

theorem codes_of_drawn {ws : List Widget} {tiles : List Tile}
    (h : List.Forall₂ (Drawn I registry ctx) ws tiles) :
    Tile.codes tiles = ws.map fun w => Text.key w.code := by
  unfold Tile.codes
  induction h with
  | nil => rfl
  | cons hdrawn _ ih => rw [List.map_cons, List.map_cons, hdrawn.code, ih]

theorem exists_widget_of_drawn {ws : List Widget} {tiles : List Tile}
    (h : List.Forall₂ (Drawn I registry ctx) ws tiles) :
    ∀ t ∈ tiles, ∃ w ∈ ws, Drawn I registry ctx w t := by
  induction h with
  | nil => simp
  | cons hdrawn _ ih =>
    intro t ht
    rcases List.mem_cons.1 ht with rfl | ht
    · exact ⟨_, List.mem_cons_self, hdrawn⟩
    · obtain ⟨w, hw, hwt⟩ := ih t ht
      exact ⟨w, List.mem_cons_of_mem _ hw, hwt⟩

/-- What a user with preferences `p` is to be shown. -/
structure LaidOut (d : Dashboard) (I : Services → Prop) (registry : Panel.Registry)
    (authorizer : Authorizer) (ctx : Context) (p : Preferences) (tiles : List Tile) : Prop where
  once : (Tile.codes tiles).Nodup
  drawn : ∀ t ∈ tiles, ∃ w ∈ d.widgets, Drawn I registry ctx w t
  shown : ∀ w ∈ d.widgets, Text.key w.code ∈ Tile.codes tiles ↔ Text.key w.code ∉ p.hidden ∧
    ∀ permission, w.permission = some permission → authorizer ctx permission resource = true
  order : Tile.codes tiles = p.layout.filter (Tile.codes tiles).contains ++
    d.codes.filter fun code => !p.layout.contains code && (Tile.codes tiles).contains code

theorem mem_visible (hd : d.Orderly) (hw : w ∈ d.widgets) :
    Text.key w.code ∈ d.visible authorizer ctx p ↔ shows authorizer ctx p w = true := by
  constructor
  · intro h
    obtain ⟨u, hu, hcode⟩ := List.mem_map.1 h
    obtain ⟨humem, hushows⟩ := List.mem_filter.1 hu
    rwa [← List.inj_on_of_nodup_map hd.distinct humem hw hcode]
  · intro h
    exact List.mem_map_of_mem (List.mem_filter.2 ⟨hw, h⟩)

theorem visible_eq (hd : d.Orderly) :
    d.visible authorizer ctx p = d.codes.filter (d.visible authorizer ctx p).contains := by
  rw [codes, List.filter_map, visible]
  congr 1
  refine List.filter_congr fun w hw => ?_
  rw [Bool.eq_iff_iff, ← mem_visible hd hw, visible, Function.comp_apply, List.contains_iff_mem]

theorem Orderly.laidOut (hd : d.Orderly) (hp : p.layout.Nodup) {tiles : List Tile}
    (hdrawn : List.Forall₂ (Drawn I registry ctx) ((d.ordered p).filter (shows authorizer ctx p)) tiles) :
    d.LaidOut I registry authorizer ctx p tiles := by
  have hperm : (d.ordered p).Perm d.widgets := List.mergeSort_perm d.widgets _
  have hcodes := (codes_of_drawn hdrawn).trans (codes_ordered hd hp)
  -- what is shown is what the user is to see, in another order
  have hmem : ∀ code, code ∈ Tile.codes tiles ↔ code ∈ d.visible authorizer ctx p := by
    intro code
    rw [hcodes, List.mem_append, List.mem_filter, List.mem_filter, List.contains_iff_mem]
    by_cases hlayout : code ∈ p.layout <;> simp [hlayout]
  have hcontains : (Tile.codes tiles).contains = (d.visible authorizer ctx p).contains := by
    funext code
    rw [Bool.eq_iff_iff, List.contains_iff_mem, List.contains_iff_mem, hmem]
  constructor
  case once =>
    rw [codes_of_drawn hdrawn]
    exact (hperm.map _).nodup_iff.2 hd.distinct |>.sublist (List.filter_sublist.map _)
  case drawn =>
    intro t ht
    obtain ⟨w, hw, hwt⟩ := exists_widget_of_drawn hdrawn t ht
    exact ⟨w, hperm.subset (List.mem_of_mem_filter hw), hwt⟩
  case shown =>
    intro w hw
    rw [hmem, mem_visible hd hw, shows_iff]
  case order =>
    rw [hcontains, hcodes]
    congr 1
    rw [← List.filter_filter, ← visible_eq hd]

theorem ensures_render (authorizer : Authorizer) (hd : d.Orderly)
    (hdraw : ∀ w ∈ d.widgets, w.DrawnWithin I registry ctx) (hs : I s) :
    (d.render registry authorizer ctx).Ensures s fun r t => I t ∧
      ∃ tiles, r = (fun _ => tiles) <$> ctx.ensureActive ∧
        d.LaidOut I registry authorizer ctx (d.preferencesFor ctx.userId) tiles := by
  have hperm : (d.ordered (d.preferencesFor ctx.userId)).Perm d.widgets :=
    List.mergeSort_perm d.widgets _
  have hshown : ∀ w ∈ (d.ordered (d.preferencesFor ctx.userId)).filter
      (shows authorizer ctx (d.preferencesFor ctx.userId)), w.DrawnWithin I registry ctx :=
    fun w hw => hdraw w (hperm.subset (List.mem_of_mem_filter hw))
  intro supply
  obtain ⟨ht, tiles, htiles, hdrawn⟩ := ensures_drawAll hshown hs supply
  have hlaid := hd.laidOut (hd.settled ctx.userId).layout hdrawn
  unfold render
  cases ctx.ensureActive with
  | error e => exact ⟨hs, tiles, rfl, hlaid⟩
  | ok _ => exact ⟨ht, tiles, htiles, hlaid⟩

theorem render_save (h : d.save ctx now p = .ok (saved, d')) {other : Context}
    (hother : other.userId ≠ ctx.userId) :
    d'.render registry authorizer other = d.render registry authorizer other := by
  have hpreferences := preferencesFor_save h hother
  obtain ⟨actor, -, -, -, rfl⟩ := save_eq_ok h
  unfold render
  rw [hpreferences]
  rfl

inductive Request where
  | register (w : Widget)
  | save (ctx : Context) (p : Preferences)

def Request.call : Request → Call Office Unit
  | register w => Office.registerWidget w
  | save ctx p => do let _ ← Office.savePreferences ctx p

end Dashboard

namespace Office

open Dashboard (Preferences Request Widget)

/-- The back offices that such requests bring about, whatever happens to the rest of them. -/
inductive Furnished : Office → Prop
  | bare {o : Office} (h : o.dashboard = .empty) : Furnished o
  | asked {o : Office} (h : Furnished o) (q : Request) (supply : Supply) :
    Furnished (q.call (supply, o)).2.2
  | elsewhere {o o' : Office} (h : Furnished o) (same : o'.dashboard = o.dashboard) : Furnished o'

variable {o : Office}

theorem ensures_onDashboard {α : Type} {f : Dashboard → Except Fault (α × Dashboard)}
    {P : Except Fault α → Office → Prop}
    (hok : ∀ a d, f o.dashboard = .ok (a, d) → P (.ok a) { o with dashboard := d })
    (herror : ∀ e, f o.dashboard = .error e → P (.error e) o) : (onDashboard f).Ensures o P := by
  refine ensures_atomic (fun a t h => ?_) fun e h => ?_
  · obtain ⟨⟨a, d⟩, hf, hend⟩ := bind_eq_ok.1 h
    cases hend
    exact hok a d hf
  · rcases bind_eq_error.1 h with hf | ⟨_, -, ⟨⟩⟩
    exact herror e hf

theorem ensures_registerWidget (w : Widget) (ho : o.dashboard.Orderly) :
    (registerWidget w).Ensures o fun _ o' => o'.dashboard.Orderly := by
  refine ensures_onDashboard (fun _ d h => ?_) fun _ _ => ho
  obtain ⟨d', hd', hend⟩ := bind_eq_ok.1 h
  cases hend
  exact ho.registered hd'

theorem ensures_savePreferences (ctx : Context) (p : Preferences) :
    (savePreferences ctx p).Ensures o fun r o' => match r with
      | .ok saved => ∃ now d, o.dashboard.save ctx now p = .ok (saved, d) ∧
          o' = { o with dashboard := d }
      | .error _ => o' = o := by
  refine Call.Ensures.seq (ensures_now fun now => ?_)
  exact ensures_onDashboard (fun saved d h => ⟨now, d, h, rfl⟩) fun _ _ => rfl

theorem orderly_call (q : Request) (ho : o.dashboard.Orderly) :
    q.call.Leaves o fun o' => o'.dashboard.Orderly := by
  cases q with
  | register w => exact ensures_registerWidget w ho
  | save ctx p =>
    refine Call.Leaves.answer (Call.Ensures.imp (ensures_savePreferences ctx p) fun r o' h => ?_)
    cases r with
    | error e => exact h ▸ ho
    | ok saved =>
      obtain ⟨now, d, hd, rfl⟩ := h
      exact ho.save hd

theorem Furnished.orderly (ho : o.Furnished) : o.dashboard.Orderly := by
  induction ho with
  | bare h => exact h ▸ .bare
  | asked _ q supply ih => exact orderly_call q ih supply
  | elsewhere _ same ih => exact same ▸ ih

theorem rendered_layout (ho : o.Furnished) :
    (∀ (I : Services → Prop) (registry : Panel.Registry) (authorizer : Authorizer) (ctx : Context),
      ctx.userId ≠ "" → (∀ w ∈ o.dashboard.widgets, w.DrawnWithin I registry ctx) → ∀ s, I s →
      (o.dashboard.render registry authorizer ctx).Ensures s fun r t => I t ∧
        ∃ tiles, r = (fun _ => tiles) <$> ctx.ensureActive ∧
          o.dashboard.LaidOut I registry authorizer ctx
            ((o.dashboard.preferences.get? ctx.userId).getD .none) tiles) ∧
    (∀ user p, o.dashboard.preferences.get? user = some p → p.layout.Nodup ∧ p.hidden.Nodup ∧
      ∀ code ∈ p.layout ++ p.hidden,
        code ∈ o.dashboard.codes ∧ code ≠ "" ∧ Text.key code = code) ∧
    ∀ ctx p, (savePreferences ctx p).Ensures o fun r o' =>
      (∀ registry authorizer other, other.userId ≠ ctx.userId →
        o'.dashboard.render registry authorizer other =
          o.dashboard.render registry authorizer other) ∧
      match r with
      | .ok saved => o'.dashboard.preferences.get? ctx.userId = some saved ∧
          saved.layout = Text.distinctKeys p.layout ∧ saved.hidden = Text.distinctKeys p.hidden
      | .error _ => o' = o := by
  have hd := ho.orderly
  refine ⟨fun I registry authorizer ctx huser hdraw s hs => ?_, fun user p hp => ?_,
    fun ctx p => ?_⟩
  · have hrender := Dashboard.ensures_render authorizer hd hdraw hs
    rwa [Dashboard.preferencesFor, if_neg (mt beq_iff_eq.1 huser)] at hrender
  · have hsettled := hd.saved user p hp
    refine ⟨hsettled.layout, hsettled.hidden, fun code hcode => ?_⟩
    have hknown := hsettled.registered code hcode
    exact ⟨hknown, hd.named code hknown, Dashboard.Orderly.key_of_mem hknown⟩
  · refine Call.Ensures.imp (ensures_savePreferences ctx p) fun r o' h => ?_
    cases r with
    | error e => exact ⟨fun _ _ _ _ => by rw [h], h⟩
    | ok saved =>
      obtain ⟨now, d, hd, rfl⟩ := h
      refine ⟨fun _ _ _ hother => Dashboard.render_save hd hother, ?_⟩
      obtain ⟨actor, hactor, rfl, -, rfl⟩ := Dashboard.save_eq_ok hd
      refine ⟨?_, rfl, rfl⟩
      rw [Context.userId, hactor]
      exact Dict.get?_set_self ..

def reader : Context := { Context.empty with actor := some (.named "u-1") }

def plain (code title : String) : Widget := ⟨code, title, none, .host fun _ => pure .null⟩

def arranged : Office :=
  [.register (plain "a" "A"), .register (plain "b" "B"), .register (plain "c" "C"),
    Request.save reader ⟨["C", "a", "c"], ["b"], none⟩].foldl
    (fun o q => (q.call (⟨⟨0, 0⟩, 0⟩, o)).2.2) vacant

theorem rendered_layout_arranged :
    let o := arranged
    let registry := o.site.registry
    let p := (o.dashboard.preferences.get? "u-1").getD .none
    p.layout = ["c", "a"] ∧ p.hidden = ["b"] ∧
      (o.dashboard.render registry .allowAll reader).Ensures o.services fun r t =>
        t = o.services ∧ ∃ tiles, r = .ok tiles ∧
          o.dashboard.LaidOut (· = o.services) registry .allowAll reader p tiles := by
  intro o registry p
  have ho : o.Furnished := .asked (.asked (.asked (.asked (.bare rfl) _ _) _ _) _ _) _ _
  have hwidgets : o.dashboard.widgets = [plain "a" "A", plain "b" "B", plain "c" "C"] := rfl
  have hdraw : ∀ w ∈ o.dashboard.widgets, w.DrawnWithin (· = o.services) registry reader := by
    rw [hwidgets]
    simp only [List.forall_mem_cons, List.not_mem_nil, false_implies, implies_true, and_true]
    exact ⟨fun _ hs => ensures_pure ⟨hs, .null, rfl⟩, fun _ hs => ensures_pure ⟨hs, .null, rfl⟩,
      fun _ hs => ensures_pure ⟨hs, .null, rfl⟩⟩
  exact ⟨by decide, rfl,
    (rendered_layout ho).1 (· = o.services) registry .allowAll reader (by decide) hdraw _ rfl⟩

end Office

end Backoffice

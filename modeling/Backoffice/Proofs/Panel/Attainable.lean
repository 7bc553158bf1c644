import Backoffice.Proofs.Panel.Isolation
import Backoffice.Proofs.Panel.Relink

/-!
The sites that come about over menus in memory: however calls of the factory end, they leave menus in
order (`Attainable.orderly`).
-/

namespace Backoffice.Panel.Factory

open Call (Ensures Leaves Quiet)

structure Tidies {α : Type} (c : Call Site α) : Prop where
  leaves : ∀ s, s.menus.Orderly → c.Leaves s (·.menus.Orderly)

namespace Tidies

variable {α β : Type}

theorem quiet {c : Call Site α} (h : c.Quiet) : Tidies c := ⟨fun _ hs => h.leaves hs⟩

theorem pure {a : α} : Tidies (Pure.pure a) := quiet (Call.quiet_pure a)

theorem throw {e : Fault} : Tidies (throw e : Call Site α) := quiet (Call.quiet_throw e)

theorem ofExcept {r : Except Fault α} : Tidies (Call.ofExcept r) := quiet (Call.quiet_ofExcept r)

theorem asks {g : Site → Except Fault α} : Tidies (Call.asks g) := quiet (Call.quiet_asks g)

theorem reads {g : Site → α} : Tidies (Call.reads g) := quiet fun _ => rfl

theorem state : Tidies Call.state := quiet fun _ => rfl

theorem bind {c : Call Site α} {g : α → Call Site β} (hc : Tidies c) (hg : ∀ a, Tidies (g a)) :
    Tidies (c >>= g) :=
  ⟨fun s hs => (hc.leaves s hs).bind (fun a t ht => (hg a).leaves t ht) fun _ ht => ht⟩

theorem attempt {c : Call Site α} (hc : Tidies c) : Tidies c.attempt :=
  ⟨fun s hs => Ensures.attempt (hc.leaves s hs)⟩

theorem ite {b : Prop} [Decidable b] {c d : Call Site α} (hc : Tidies c) (hd : Tidies d) :
    Tidies (if b then c else d) := by
  split
  · exact hc
  · exact hd

theorem guarded {b : Prop} [Decidable b] {g : Call Site α} {c : Call Site β} (hg : Tidies g)
    (hc : Tidies c) : Tidies (if b then g >>= fun _ => c else c) := ite (bind hg fun _ => hc) hc

theorem handled {c : Call Site α} {g : Except Fault α → Call Site β} (hc : Tidies c)
    (hok : ∀ a, Tidies (g (.ok a))) (herror : ∀ e, Tidies (g (.error e))) :
    Tidies (c.attempt >>= g) := by
  refine bind (attempt hc) fun r => ?_
  cases r with
  | ok a => exact hok a
  | error e => exact herror e

theorem forM {g : α → Call Site PUnit} {as : List α} (hg : ∀ a, Tidies (g a)) :
    Tidies (as.forM g) :=
  ⟨fun _ hs => Call.ensures_forM (fun a _ t ht => (hg a).leaves t ht) hs⟩

theorem onRegistry {g : Registry → Registry} : Tidies (Site.onRegistry g) :=
  ⟨fun _ hs => Call.ensures_change hs⟩

theorem release {environment typeId : String} {previous : Option String} :
    Tidies (Site.release environment typeId previous) := ⟨fun _ hs => Call.ensures_change hs⟩

theorem reserve {environment typeId slug : String} :
    Tidies (Site.reserve environment typeId slug) :=
  ⟨fun _ hs => Site.ensures_reserve (fun _ => hs) fun _ _ => hs⟩

theorem onMenus {g : Menu.Service → Except Fault Menu.Service}
    (h : ∀ menus menus', g menus = .ok menus' → menus' = menus ∨ menus.Written menus') :
    Tidies (Site.onMenus g) := by
  refine ⟨fun s hs => Site.ensures_onMenus (fun menus hmenus => ?_) fun _ _ => hs⟩
  rcases h _ menus hmenus with rfl | hwritten
  · exact hs
  · exact hwritten.orderly hs

theorem dropItem {ctx : Context} {code id : String} : Tidies (Site.onMenus (·.dropItem ctx code id)) :=
  onMenus fun _ _ => Menu.Service.dropItem_written

theorem writing {g : Menu.Service → Except Fault (Menu.Item × Menu.Service)}
    (h : ∀ menus i menus', g menus = .ok (i, menus') → menus.Written menus') :
    Tidies (writing g) := by
  refine ⟨fun s hs => Call.ensures_atomic (fun i t ht => ?_) fun _ _ => hs⟩
  obtain ⟨⟨j, menus⟩, hmenus, ht⟩ := bind_eq_ok.1 ht
  cases ht
  exact (h _ _ _ hmenus).orderly hs

end Tidies

section

variable (f : Factory) (runtime : Workflow.Runtime) (ctx : Context) (c : ContentType)

theorem tidies_unregister (name : String) : Tidies (Site.unregister ctx name) := by
  refine .bind .reads fun registry => .bind .onRegistry fun _ => ?_
  cases registry.attachments.get? name with
  | none => exact .pure
  | some a => exact .guarded .dropItem .pure

theorem tidies_detach (name : String) : Tidies (f.detach ctx name) := by
  have hgone : Tidies (do let _ ← Site.unregister ctx name : Call Site Unit) :=
    .bind (tidies_unregister ctx name) fun _ => .pure
  refine .bind .state fun s => ?_
  cases s.registry.attachments.get? name with
  | none => exact hgone
  | some a => exact .guarded .dropItem hgone

theorem tidies_lodge (current : Option Menu.Item) (item : Menu.Item) :
    Tidies (lodge ctx current item) := by
  have hupdate : Tidies (writing (·.updateItem ctx item)) := .writing fun _ _ _ => .updated
  cases current with
  | some _ => exact .bind hupdate fun _ => .pure
  | none =>
    refine .handled (.writing fun _ _ _ => .added) (fun _ => .pure) fun e => ?_
    exact .ite (.bind hupdate fun _ => .pure) (.bind .throw fun _ => .pure)

theorem tidies_linkMenu (p : Panel) (slug : String) (position : Option Int) :
    Tidies (f.linkMenu ctx p c slug position) := by
  rw [linkMenu_eq]
  refine .bind (.onMenus fun _ _ => Menu.Service.ensureMenu_written) fun _ => ?_
  exact .bind .asks fun _ => .bind (.forM fun _ => .dropItem) fun _ => tidies_lodge ctx _ _

theorem tidies_link (environment slug : String) (position : Option Int) :
    Tidies (f.link runtime ctx c environment slug position) := by
  refine .guarded .ofExcept (.bind .ofExcept fun p => ?_)
  refine .bind .onRegistry fun _ => .bind .onRegistry fun _ => ?_
  refine .ite (.bind (tidies_linkMenu f ctx c p slug position) fun _ => ?_) .pure
  exact .bind .onRegistry fun _ => .pure

theorem tidies_cleanup (environment : String) : Tidies (f.cleanup ctx c environment) :=
  .bind .reads fun _ => .bind .release fun _ => .ite (tidies_detach f ctx _) .pure

theorem tidies_createAt (position : Option Int) : Tidies (f.createAt runtime ctx c position) := by
  refine .bind .ofExcept fun _ => .ite (.guarded .throw (.bind .reserve fun _ => ?_)) ?_
  · refine .handled (tidies_link f runtime ctx c _ _ position) (fun _ => .pure) fun e => ?_
    exact .bind .release fun _ => .throw
  · exact .guarded .ofExcept (.bind (tidies_cleanup f ctx c _) fun _ => .pure)

theorem tidies_leave (environment old : String) (exposes : Bool) :
    Tidies (f.leave ctx c environment old exposes) := by
  refine .guarded .reserve (.bind .reads fun position => ?_)
  exact .handled (tidies_detach f ctx _) (fun _ => .guarded .release .pure)
    fun _ => .guarded .release .throw

theorem tidies_refresh : Tidies (f.refresh runtime ctx c) := by
  refine .bind .ofExcept fun _ => .bind .reads fun recorded => ?_
  dsimp only
  cases recorded.filter (· != c.panelSlug) with
  | none => exact tidies_createAt f runtime ctx c none
  | some old =>
    refine .bind (tidies_leave f ctx c _ old _) fun position => ?_
    exact .handled (tidies_createAt f runtime ctx c position) (fun _ => .pure)
      fun _ => .guarded .release .throw

theorem Request.tidies (q : Request) : Tidies (q.call f runtime ctx) := by
  cases q with
  | create c => exact .bind (tidies_createAt f runtime ctx c none) fun _ => .pure
  | refresh c => exact .bind (tidies_refresh f runtime ctx c) fun _ => .pure
  | remove c => exact .bind .ofExcept fun _ => tidies_cleanup f ctx c _

end

/-- Sites that come about from one without slugs and menus: by calls of the factory, however they
end, and by writes of the host on registry and menus. -/
inductive Attainable (f : Factory) : Site → Prop
  | start {registry : Registry} : Attainable f ⟨registry, .empty, []⟩
  | registry {s : Site} {registry : Registry} : Attainable f s → Attainable f { s with registry }
  | menus {s : Site} {menus : Menu.Service} :
    Attainable f s → s.menus.Written menus → Attainable f { s with menus }
  | call {s : Site} {runtime : Workflow.Runtime} {ctx : Context} {q : Request} {supply : Supply} :
    Attainable f s → Attainable f (q.call f runtime ctx (supply, s)).2.2

variable {f : Factory} {s : Site}

theorem Attainable.orderly (hs : Attainable f s) : s.menus.Orderly := by
  induction hs with
  | start => exact Menu.Service.orderly_empty
  | registry _ ih => exact ih
  | menus _ hwritten ih => exact hwritten.orderly ih
  | @call s runtime ctx q supply _ ih => exact (q.tidies f runtime ctx).leaves s ih supply

theorem Attainable.reachable (hs : Attainable f s) : Reachable f s := by
  induction hs with
  | start => exact .start rfl
  | registry _ ih => exact .elsewhere ih rfl
  | menus _ _ ih => exact .elsewhere ih rfl
  | call _ ih => exact .call ih

end Backoffice.Panel.Factory

import Backoffice.Proofs.Menu.InMemory
import Backoffice.Proofs.Office.TypeWrites

namespace Backoffice

open Call (Ensures Leaves ensures_fresh ensures_now)
open Panel.Factory (pages)

namespace Menu.Item

variable {items : List Item} {a b : Item}

def orderUnsetLast (a b : Item) : Ordering :=
  (compare a.position.isNone b.position.isNone).then (order a b)

theorem orderUnsetLast_of_unset {n : Int} (ha : a.position = none) (hb : b.position = some n) :
    orderUnsetLast a b = .gt := by
  rw [orderUnsetLast, ha, hb]
  rfl

theorem order_of_unset {n : Int} (ha : a.position = none) (hb : b.position = some n)
    (h : (order a b).isLE = true) : lastPosition ≤ n := by
  rw [order, ha, hb] at h
  exact Int.isLE_compare.1 (Ordering.isLE_left_of_isLE_then h)

theorem order_of_distinct (hle : (order a b).isLE = true) (hne : a.id ≠ b.id) :
    order a b = .lt := by
  cases h : order a b with
  | lt => rfl
  | eq => exact absurd (id_eq_of_tied (beq_iff_eq.2 h)) hne
  | gt => simp [h] at hle

theorem pairwise_orderUnsetLast_iff (hordered : Ordered items) (hdistinct : Distinct items) :
    items.Pairwise (fun a b => (orderUnsetLast a b).isLE = true) ↔
      ∀ a ∈ items, ∀ b ∈ items, ∀ n, a.position = none → b.position = some n →
        lastPosition ≤ n → order b a = .lt := by
  constructor
  · intro h a ha b hb n hunset hset _
    have hids : items.Pairwise fun a b => a.id ≠ b.id := List.pairwise_map.1 hdistinct
    -- `a` does not stand before `b`, and what stands before another item is smaller
    refine List.Pairwise.forall_of_forall_of_flip (R := fun a b => ∀ n, a.position = none →
      b.position = some n → order b a = .lt) ?_ ?_ ?_ ha hb n hunset hset
    · intro c _ m hunset hset
      exact nomatch hunset.symm.trans hset
    · refine h.imp fun hle m hunset hset => ?_
      rw [orderUnsetLast_of_unset hunset hset] at hle
      cases hle
    · exact (hordered.and hids).imp fun hle m _ _ => order_of_distinct hle.1 hle.2
  · intro h
    refine hordered.imp_of_mem fun {a b} ha hb hle => ?_
    cases hset : a.position with
    | some m =>
      cases hset' : b.position with
      | some n => rwa [orderUnsetLast, hset, hset']
      | none =>
        rw [orderUnsetLast, hset, hset']
        rfl
    | none =>
      cases hset' : b.position with
      | some n =>
        have hlt := h a ha b hb n hset hset' (order_of_unset hset hset' hle)
        have hswap : order a b = (order b a).swap := Std.OrientedCmp.eq_swap
        rw [hswap, hlt] at hle
        cases hle
      | none => rwa [orderUnsetLast, hset, hset']

end Menu.Item

namespace ContentType.Catalog

variable {cat cat' : Catalog} {c : ContentType} {ctx : Context} {now : Instant} {fresh : String}

theorem Orderly.change (hcat : cat.Orderly) {w : Office.Write}
    (h : w.change ctx now fresh cat = .ok (c, cat')) : cat'.Orderly := by
  cases w with
  | create new => exact hcat.create h
  | update new => exact hcat.update h
  | delete id => exact hcat.delete h

end ContentType.Catalog

namespace Office

variable {o : Office} {ctx : Context}

/-- The catalogues that writes of content types make of an empty one, whether the panels follow them
or not, and whatever happens to the rest of the back office. -/
inductive Recorded : Office → Prop
  | start {o : Office} (h : o.catalog = .empty) : Recorded o
  | write {o : Office} (h : Recorded o) (w : Write) (ctx : Context) (supply : Supply) :
    Recorded (w.call ctx (supply, o)).2.2
  | elsewhere {o o' : Office} (h : Recorded o) (same : o'.catalog = o.catalog) : Recorded o'

theorem leaves_writeType (event : ContentType → ContentType.Event) (ctx : Context)
    (f : ContentType.Catalog → Except Fault (ContentType × ContentType.Catalog)) (o : Office) :
    (writeType event ctx f).Leaves o fun o' =>
      o'.catalog = o.catalog ∨ ∃ c, f o.catalog = .ok (c, o'.catalog) := by
  refine ensures_writeType (fun c catalog hwrite => ?_) fun _ _ => .inl rfl
  split
  · exact fun _ => .inr ⟨c, hwrite⟩
  · exact .inr ⟨c, hwrite⟩

theorem Write.leaves_call (w : Write) (ctx : Context) (o : Office) :
    (w.call ctx).Leaves o fun o' => o'.catalog = o.catalog ∨
      ∃ now fresh c, w.change ctx now fresh o.catalog = .ok (c, o'.catalog) := by
  cases w with
  | create c =>
    refine Leaves.answer (Ensures.seq (ensures_now fun now => Ensures.seq ?_))
    exact ensures_fresh fun fresh => (leaves_writeType _ ctx _ o).imp fun _ _ h =>
      h.imp_right fun ⟨d, hd⟩ => ⟨now, fresh, d, hd⟩
  | update c =>
    refine Leaves.answer (Ensures.seq (ensures_now fun now => ?_))
    exact (leaves_writeType _ ctx _ o).imp fun _ _ h =>
      h.imp_right fun ⟨d, hd⟩ => ⟨now, "", d, hd⟩
  | delete id =>
    exact Leaves.answer ((leaves_writeType _ ctx _ o).imp fun _ _ h =>
      h.imp_right fun ⟨d, hd⟩ => ⟨⟨0, 0⟩, "", d, hd⟩)

theorem Write.orderly_call (w : Write) (ctx : Context) (ho : o.catalog.Orderly) :
    (w.call ctx).Leaves o fun o' => o'.catalog.Orderly := by
  refine (w.leaves_call ctx o).imp fun _ o' h => ?_
  rcases h with hsame | ⟨now, fresh, c, hchange⟩
  · exact hsame ▸ ho
  · exact ho.change hchange

theorem Recorded.orderly (ho : o.Recorded) : o.catalog.Orderly := by
  induction ho with
  | start h => exact h ▸ .empty
  | write _ w ctx supply ih => exact w.orderly_call ctx ih supply
  | elsewhere _ same ih => exact same ▸ ih

theorem stores_orderly {s : Menu.Service} {code : String} {m : Menu} (ho : o.Recorded)
    (hs : s.InMemory) (hm : s.menus.get? code = some m) :
    (∀ id c, o.catalog.types.get? id = some c → c.id = id ∧ c.slug ≠ "" ∧
      Text.key c.slug = c.slug ∧ Text.key c.environment = c.environment) ∧
    (∀ id id' c c', o.catalog.types.get? id = some c → o.catalog.types.get? id' = some c' →
      c.slug = c'.slug → c.environment = c'.environment → id = id') ∧
    (∀ ctx new, ((Write.update new).call ctx).Leaves o fun o' =>
      ∀ id c, o.catalog.types.get? id = some c →
        ∃ c', o'.catalog.types.get? id = some c' ∧ c'.createdAt = c.createdAt) ∧
    Menu.Item.Distinct m.items ∧ Menu.Item.Ordered m.items ∧
    (m.items.Pairwise (fun a b => (Menu.Item.orderUnsetLast a b).isLE = true) ↔
      ∀ a ∈ m.items, ∀ b ∈ m.items, ∀ n, a.position = none → b.position = some n →
        Menu.Item.lastPosition ≤ n → Menu.Item.order b a = .lt) := by
  have hcat := ho.orderly
  have hitems : s.itemsAt code = m.items := by
    rw [Menu.Service.itemsAt, hm]
    rfl
  have hdistinct : Menu.Item.Distinct m.items := hitems ▸ hs.orderly.distinct code
  have hordered : Menu.Item.Ordered m.items := hitems ▸ hs.orderly.ordered code
  refine ⟨fun id c hc => ?_, hcat.distinct, fun ctx new => ?_, hdistinct, hordered,
    Menu.Item.pairwise_orderUnsetLast_iff hordered hdistinct⟩
  · have hnormal := hcat.normal id c hc
    exact ⟨hcat.filed id c hc, hnormal.named, hnormal.slug, hnormal.environment⟩
  · refine ((Write.update new).leaves_call ctx o).imp fun _ o' h id c hc => ?_
    rcases h with hsame | ⟨now, fresh, d, hupdate⟩
    · exact ⟨c, hsame ▸ hc, rfl⟩
    · exact ContentType.Catalog.createdAt_of_update hupdate hc

def unset : Menu.Item := { Menu.Item.new "admin" "A" (.url "/a") with id := "a" }

def last : Menu.Item :=
  { Menu.Item.new "admin" "B" (.url "/b") with id := "b", position := some 2147483647 }

def ending : Menu.Service := Menu.Service.empty.withItems (Text.key "admin") [unset, last]

theorem inMemory_ending : ending.InMemory := by
  refine Menu.Service.inMemory_withItems ?_ ?_ ?_ ?_
  · decide
  · decide
  · unfold Menu.Item.Distinct
    decide
  · unfold Menu.Item.Ordered
    decide

theorem get?_ending : ending.menus.get? "admin" = some ⟨"admin", [unset, last]⟩ := by
  decide

theorem stores_orderly_ending :
    let o := vacant.afterWrite (.create (pages .active "a"))
    o.Recorded ∧ (∃ c, o.catalog.types.get? "1" = some c ∧ c.id = "1" ∧ c.slug ≠ "") ∧
      ending.InMemory ∧ ending.menus.get? "admin" = some ⟨"admin", [unset, last]⟩ ∧
      Menu.Item.Distinct [unset, last] ∧ Menu.Item.Ordered [unset, last] := by
  intro o
  have ho : o.Recorded := .write (.start rfl) _ _ _
  have hkeys : "1" ∈ o.catalog.types.keys := by decide +kernel
  obtain ⟨c, hc⟩ := Option.isSome_iff_exists.1 (Dict.mem_keys_iff.1 hkeys)
  obtain ⟨htypes, -, -, hdistinct, hordered, -⟩ := stores_orderly ho inMemory_ending get?_ending
  obtain ⟨hid, hslug, -⟩ := htypes "1" c hc
  exact ⟨ho, ⟨c, hc, hid, hslug⟩, inMemory_ending, get?_ending, hdistinct, hordered⟩

/-- An item without position counts with those at the last one, and stands before one of them that has
a later label. -/
theorem unset_before_last :
    ending.InMemory ∧ ending.menus.get? "admin" = some ⟨"admin", [unset, last]⟩ ∧
      unset.position = none ∧ last.position = some 2147483647 ∧
      ¬[unset, last].Pairwise fun a b => (Menu.Item.orderUnsetLast a b).isLE = true := by
  refine ⟨inMemory_ending, get?_ending, rfl, rfl, ?_⟩
  decide

end Office

end Backoffice

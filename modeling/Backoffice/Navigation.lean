import Backoffice.Menu

namespace Backoffice

abbrev Navigation := Dict (List Menu.Item)

namespace Navigation

def addItem (n : Navigation) (i : Menu.Item) : Nat × Navigation :=
  let i := i.withId
  let code := Text.key i.menuCode
  let items := (n.get? code).getD []
  if items.any (·.id == i.id) then (0, n) else (1, n.set code (items ++ [i]))

def merge (n : Navigation) (items : List Menu.Item) : Nat × Navigation :=
  items.foldl (fun (count, n) i =>
    let (k, n) := n.addItem i
    (count + k, n)) (0, n)

def order (a b : Menu.Item) : Ordering :=
  (compare (a.position.getD Menu.Item.lastPosition) (b.position.getD Menu.Item.lastPosition)).then
    (compare a.label b.label)

def items (n : Navigation) (code : String) : List Menu.Item :=
  ((n.get? (Text.key code)).getD []).mergeSort fun a b => (order a b).isLE

def byMenu (items : List Menu.Item) : Dict (List Menu.Item) :=
  items.foldl (fun d i =>
    let code := Text.key i.menuCode
    d.set code ((d.get? code).getD [] ++ [i.withId])) .empty

def present (ctx : Context) (code : String) : Call Menu.Service (List String) := do
  match ← Call.attempt (Call.asks fun s => s.getMenu ctx code) with
  | .ok m => pure (m.items.flatMap fun i => [i.id, i.canonicalKey])
  | .error e =>
    if e.isNotFound then do
      match ← Call.attempt (Call.update fun s => do .ok (← s.createMenu ctx code).2) with
      | .ok () => pure []
      | .error e => if e.isAlreadyExists then pure [] else throw e
    else throw e

def addMissing (ctx : Context) : List String → List Menu.Item → Call Menu.Service Nat
  | _, [] => pure 0
  | present, i :: rest => do
    if present.contains i.canonicalKey then addMissing ctx present rest
    else
      let added ← Call.attempt (Call.update fun s => do .ok (← s.addItem ctx i).2)
      let k ← match added with
        | .ok () => pure 1
        | .error e => if e.isAlreadyExists then pure 0 else throw e
      let n ← addMissing ctx (i.canonicalKey :: present) rest
      pure (k + n)

def mergeMenus (ctx : Context) : List (String × List Menu.Item) → Call Menu.Service Nat
  | [] => pure 0
  | (code, items) :: rest => do
    let n ← addMissing ctx (← present ctx code) items
    let m ← mergeMenus ctx rest
    pure (n + m)

/-- Merges items into the navigation and, if there are menus, into them; answers how many were
added to the menus, or else to the navigation. -/
def mergeItems (ctx : Context) (hasMenus : Bool) (items : List Menu.Item) :
    Call (Navigation × Menu.Service) Nat := do
  let (n, menus) ← Call.state
  let (added, n) := n.merge items
  Call.put (n, menus)
  if hasMenus then
    (mergeMenus ctx (byMenu items).entries).within (·.2) fun menus s => (s.1, menus)
  else pure added

end Navigation

end Backoffice

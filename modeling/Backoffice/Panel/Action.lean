import Backoffice.Command.Exchange
import Backoffice.Permission

namespace Backoffice.Panel

structure ActionRequest where
  ids : List String
  payload : Record

namespace ActionRequest

def empty : ActionRequest := ⟨[], []⟩

def decode : Decoder ActionRequest := Reader.decoder do
  let ids ← Reader.defaulted "ids" [] Decode.strings
  let payload ← Reader.defaulted "payload" [] Decode.record
  pure ⟨ids, payload⟩

def toPayload (r : ActionRequest) : Record :=
  let payload := Entries.set "ids" (.ofStrings r.ids) r.payload
  match r.ids with
  | [id] => if (Entries.get? "id" payload).isSome then payload else Entries.set "id" (.str id) payload
  | _ => payload

end ActionRequest

inductive ActionTarget where
  /-- Runs code of the host. -/
  | handler (run : Context → ActionRequest → Call Services (Option Json))
  | command (name : String)
  | transition (name : String)
  | client

def ActionTarget.kind : ActionTarget → String
  | .handler _ => "handler"
  | .command _ => "command"
  | .transition _ => "transition"
  | .client => "client"

structure Action where
  name : String
  label : String
  permission : Option String
  target : ActionTarget

namespace Action

def new (name : String) (target : ActionTarget) : Action :=
  ⟨name, Text.replaceChar '_' ' ' name, none, target⟩

def transition (name : String) : Action := new name (.transition name)

def client (name : String) : Action := new name .client

/-- Actions offered in every state of a workflow. -/
def passiveNames : List String := ["view", "edit", "delete", "create_translation"]

def isPassive (a : Action) : Bool := passiveNames.contains a.name

def transitionName? (a : Action) : Option String :=
  match a.target with
  | .transition t => some t
  | _ => none

def describe (a : Action) : Json :=
  .ofFields [("name", .str a.name), ("label", .str a.label), ("kind", .str a.target.kind),
    ("permission", .ofOption .str a.permission)]

def find? (actions : List Action) (name : String) : Option Action :=
  actions.find? fun a => Text.key a.name == Text.key name

end Action

/-- Code of the host around the writes of a panel. A hook before a write may change what is written; a
hook that fails stops the operation. -/
structure Hooks where
  beforeCreate : Context → Record → Call Services Record
  afterCreate : Context → Record → Call Services Unit
  beforeUpdate : Context → String → Record → Call Services Record
  afterUpdate : Context → Record → Call Services Unit
  beforeDelete : Context → String → Call Services Unit
  afterDelete : Context → String → Call Services Unit

def Hooks.none : Hooks where
  beforeCreate _ r := pure r
  afterCreate _ _ := pure ()
  beforeUpdate _ _ r := pure r
  afterUpdate _ _ := pure ()
  beforeDelete _ _ := pure ()
  afterDelete _ _ := pure ()

end Backoffice.Panel

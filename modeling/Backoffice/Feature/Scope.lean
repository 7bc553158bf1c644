import Backoffice.Context

namespace Backoffice

structure RenamedFeature where
  removed : String
  replacement : String
  hint : String

namespace Feature

def dashboard : String := "dashboard"
def cms : String := "cms"
def commands : String := "commands"
def search : String := "search"
def bulk : String := "bulk"
def preferences : String := "preferences"
def workflows : String := "workflows"
def assignmentQueue : String := "translation_queue"
def debug : String := "debug"
def tenants : String := "tenants"
def organizations : String := "organizations"

def renamed : List RenamedFeature :=
  [⟨"cms.workflows", workflows, "rename feature_flags.cms.workflows to feature_flags.workflows"⟩,
   ⟨"translations", assignmentQueue, "the translation workflow queue is gated by translation_queue"⟩,
   ⟨"translation.queue", assignmentQueue,
     "the translation workflow queue is gated by translation_queue"⟩,
   ⟨"commands.repl", debug, "the REPL shell is part of the debug subsystem"⟩,
   ⟨"user_preferences", preferences,
     "rename feature_flags.user_preferences to feature_flags.preferences"⟩]

def checkKey (key : String) : Except Fault Unit :=
  match renamed.find? (·.removed == Text.key key) with
  | some r => .error (.featureRenamed r.removed r.replacement r.hint)
  | none => .ok ()

inductive ScopeKind where
  | user
  | org
  | tenant
  | system
  deriving DecidableEq, Repr

namespace ScopeKind

def names : List (String × ScopeKind) :=
  [("user", user), ("org", org), ("tenant", tenant), ("system", system)]

def text : ScopeKind → String
  | user => "user"
  | org => "org"
  | tenant => "tenant"
  | system => "system"

def rank : ScopeKind → Nat
  | user => 0
  | org => 1
  | tenant => 2
  | system => 3

def decode : Decoder ScopeKind := Decode.choice names

end ScopeKind

structure Scope where
  kind : ScopeKind
  id : String
  deriving DecidableEq, Repr

namespace Scope

def system : Scope := ⟨.system, ""⟩

def text (s : Scope) : String :=
  if s.id == "" then s.kind.text else s.kind.text ++ ":" ++ s.id

def decode : Decoder Scope := Reader.decoder do
  let kind ← Reader.required "kind" ScopeKind.decode
  let id ← Reader.defaulted "id" "" Decode.string
  pure ⟨kind, id⟩

end Scope

abbrev Chain := List Scope

namespace Chain

/-- Puts a scope behind those that are at least as specific, unless the chain has it. -/
def insert (chain : Chain) (scope : Scope) : Chain :=
  if chain.contains scope then chain
  else
    chain.takeWhile (fun s => s.kind.rank ≤ scope.kind.rank) ++
      scope :: chain.dropWhile (fun s => s.kind.rank ≤ scope.kind.rank)

def ofContext (ctx : Context) : Chain :=
  let own := match ctx.actor with
    | none => []
    | some a =>
      let named (kind : ScopeKind) (id : String) : List Scope := if id == "" then [] else [⟨kind, id⟩]
      named .user a.id ++ named .org (a.orgId.getD "") ++ named .tenant (a.tenantId.getD "")
  (own ++ [Scope.system]).foldl insert []

end Chain

end Feature

end Backoffice

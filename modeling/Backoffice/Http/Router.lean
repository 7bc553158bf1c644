import Backoffice.Fault.Presenter
import Backoffice.Http.Assignments
import Backoffice.Http.Panels
import Backoffice.Http.Workflows

namespace Backoffice.Http

/-- A part of a route: fixed, or open for any part of a path that has the start `lead`. -/
inductive Part where
  | literal (s : String)
  | param (lead : String)
  deriving DecidableEq, Repr

def pathParts (path : String) : List String := (Text.splitAt '/' path).drop 1

def Part.ofText (s : String) : Part :=
  if s.toList.contains ':' then .param (String.ofList (s.toList.takeWhile (· != ':'))) else .literal s

def routeParts (route : String) : List Part := (pathParts route).map .ofText

structure Candidate (α : Type) where
  parts : List Part
  params : List String
  target : α

namespace Candidate

def behindLiteral? {α : Type} (s : String) (c : Candidate α) : Option (Candidate α) :=
  match c.parts with
  | .literal t :: rest => if s == t then some { c with parts := rest } else none
  | _ => none

def behindParam? {α : Type} (s : String) (last : Bool) (c : Candidate α) : Option (Candidate α) :=
  match c.parts with
  | .param lead :: rest =>
    let value := String.ofList (s.toList.drop lead.length)
    if Text.startsWith s lead && !(last && value == "") then
      some { c with parts := rest, params := value :: c.params }
    else none
  | _ => none

end Candidate

def matchRoute {α : Type} (routes : List (Candidate α)) : List String → Option (α × List String)
  | [] => (routes.find? (·.parts.isEmpty)).map fun c => (c.target, c.params.reverse)
  | s :: rest =>
    (matchRoute (routes.filterMap (·.behindLiteral? s)) rest).or
      (matchRoute (routes.filterMap (·.behindParam? s rest.isEmpty)) rest)

abbrev Methods := List (String × Handler)

def apiRoutes : List (String × Methods) :=
  [("/navigation", [("GET", navigation)]),
    ("/search", [("GET", search)]),
    ("/commands", [("GET", listCommands)]),
    ("/commands/:name", [("POST", executeCommand)]),
    ("/features/:key", [("GET", getFeature), ("PUT", setFeature), ("DELETE", unsetFeature)]),
    ("/dashboard", [("GET", getDashboard)]),
    ("/dashboard/preferences", [("GET", getPreferences), ("POST", savePreferences)]),
    ("/workflows", [("GET", listWorkflows), ("POST", createWorkflow)]),
    ("/workflows/resolve", [("GET", resolveBinding)]),
    ("/workflows/bindings", [("GET", listBindings), ("POST", createBinding)]),
    ("/workflows/bindings/:id",
      [("GET", getBinding), ("PUT", updateBinding), ("DELETE", deleteBinding)]),
    ("/workflows/:id", [("GET", getWorkflow), ("PUT", updateWorkflow)]),
    ("/workflows/:id/revisions", [("GET", listRevisions)]),
    ("/workflows/:id/revisions/:version", [("GET", getRevision)]),
    ("/translations/assignments", [("GET", listAssignments), ("POST", createAssignment)]),
    ("/translations/assignments/bulk/:op", [("POST", runBulkOperation)]),
    ("/translations/assignments/:id", [("GET", getAssignment)]),
    ("/translations/assignments/:id/:op", [("POST", runOperation)]),
    ("/panels", [("GET", listPanels)]),
    ("/:panel", [("GET", listRecords), ("POST", createRecord)]),
    ("/:panel/actions/:action", [("POST", runAction)]),
    ("/:panel/bulk/:action", [("POST", runBulkAction)]),
    ("/:panel/:id", [("GET", getRecord), ("PUT", updateRecord), ("DELETE", deleteRecord)]),
    ("/:panel/:id/actions", [("GET", recordActions)])]

def officeRoutes (apiPath : String) : List (String × Methods) :=
  [("/health", [("GET", health)]), ("/metrics", [("GET", metrics)])] ++
    apiRoutes.map fun (route, ms) => (apiPath ++ route, ms)

def routesFor (c : Config) : List (Candidate Methods) :=
  (officeRoutes c.apiPath).map fun (route, ms) => ⟨routeParts (c.base ++ route), [], ms⟩

def presented (o : Office) (r : Request) (f : Fault) : Response :=
  let p := (Presenter.new o.config.devMode).present f (some ⟨r.method, r.path⟩)
  ⟨p.status, .json p.toJson⟩

inductive Destination where
  | nowhere
  | refused
  | handler (h : Handler) (params : List String)

/-- The destination of a request; what can be asked for by `GET` can be asked for by `HEAD`. -/
def destination (c : Config) (r : Request) : Destination :=
  match matchRoute (routesFor c) (pathParts r.path) with
  | none => .nowhere
  | some (methods, params) =>
    let method := if r.method == "HEAD" then "GET" else r.method
    match methods.find? (·.1 == method) with
    | none => .refused
    | some (_, h) => .handler h params

def run (r : Request) (h : Handler) (i : Inbound) : Call Office Response := do
  match ← Call.attempt (h i) with
  | .ok response => pure response
  | .error f => pure (presented (← Call.state) r f)

def visit (r : Request) (actor : Option Actor) : Destination → Call Office Response
  | .nowhere => pure ⟨404, .empty⟩
  | .refused => pure ⟨405, .empty⟩
  | .handler h params => run r h ⟨r, actor, params⟩

def headOnly (r : Request) : Destination → Bool
  | .handler _ _ => r.method == "HEAD"
  | _ => false

def respond (r : Request) : Call Office Response := do
  let o ← Call.state
  if r.method == "OPTIONS" && o.config.server.enableCors then pure ⟨200, .empty⟩
  else
    let d := destination o.config r
    let response ← match authenticate o.authenticator r.headers with
      | .error f => pure (presented o r f)
      | .ok actor => visit r actor d
    pure (if headOnly r d then { response with body := .empty } else response)

end Backoffice.Http

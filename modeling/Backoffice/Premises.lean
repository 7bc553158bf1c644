import Backoffice.Config
import Backoffice.Dashboard
import Backoffice.Menu
import Backoffice.Panel.Factory

namespace Backoffice

inductive Authenticator where
  | headers
  /-- As `headers`, and anonymous requests are refused. -/
  | required
  | anonymous
  deriving DecidableEq, Repr

/-- What modules are loaded into. The code of a module may leave any of it changed. -/
structure Premises where
  config : Config
  authorizer : Authorizer
  authenticator : Authenticator
  services : Services
  site : Site
  catalog : ContentType.Catalog
  factory : Panel.Factory
  /-- Whether the panels follow the catalogue. -/
  follows : Bool
  dashboard : Dashboard

end Backoffice

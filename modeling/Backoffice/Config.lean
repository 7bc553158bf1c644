import Backoffice.Config.Address
import Backoffice.Feature.Scope

namespace Backoffice

inductive Guard where
  | dashboardView
  | dashboardPreferences
  | workflowsView
  | workflowsEdit
  | assignmentsView
  | assignmentsClaim
  | assignmentsAssign
  | assignmentsReview
  | assignmentsManage
  | featuresView
  | featuresEdit
  | commandsView
  | commandsExecute
  | metricsView
  deriving DecidableEq, Repr

namespace Guard

def all : List Guard :=
  [dashboardView, dashboardPreferences, workflowsView, workflowsEdit, assignmentsView,
    assignmentsClaim, assignmentsAssign, assignmentsReview, assignmentsManage, featuresView,
    featuresEdit, commandsView, commandsExecute, metricsView]

def areaVerb : Guard → String × String
  | dashboardView => ("dashboard", "view")
  | dashboardPreferences => ("dashboard", "update")
  | workflowsView => ("workflows", "view")
  | workflowsEdit => ("workflows", "edit")
  | assignmentsView => ("translations", "view")
  | assignmentsClaim => ("translations", "claim")
  | assignmentsAssign => ("translations", "assign")
  | assignmentsReview => ("translations", "review")
  | assignmentsManage => ("translations", "manage")
  | featuresView => ("features", "view")
  | featuresEdit => ("features", "edit")
  | commandsView => ("commands", "view")
  | commandsExecute => ("commands", "execute")
  | metricsView => ("metrics", "view")

def name : Guard → String
  | dashboardPreferences => "dashboard_preferences"
  | g => g.areaVerb.1 ++ "_" ++ g.areaVerb.2

def fallback (g : Guard) : String := "admin." ++ g.areaVerb.1 ++ "." ++ g.areaVerb.2

end Guard

namespace Config

structure Urls where
  apiPrefix : String
  apiVersion : String
  deriving DecidableEq, Repr

namespace Urls

def standard : Urls := ⟨"api", ""⟩

def decode : Decoder Urls := Reader.decoder do
  let apiPrefix ← Reader.defaulted "api_prefix" standard.apiPrefix Decode.string
  let apiVersion ← Reader.defaulted "api_version" standard.apiVersion Decode.string
  pure ⟨apiPrefix, apiVersion⟩

def toJson (u : Urls) : Json :=
  .ofFields [("api_prefix", .str u.apiPrefix), ("api_version", .str u.apiVersion)]

end Urls

structure Debugging where
  enabled : Bool
  panels : List String
  maxLogEntries : Nat
  maxSqlQueries : Nat
  slowQueryMillis : Nat
  /-- Empty for every address. -/
  allowedIps : List String
  maskFieldTypes : Dict String
  toolbarMode : String

namespace Debugging

def standard : Debugging := ⟨false, [], 500, 200, 50, [], .empty, "collapsed"⟩

def decode : Decoder Debugging := Reader.decoder do
  let enabled ← Reader.defaulted "enabled" standard.enabled Decode.bool
  let panels ← Reader.defaulted "panels" standard.panels Decode.strings
  let maxLogEntries ← Reader.defaulted "max_log_entries" standard.maxLogEntries Decode.word
  let maxSqlQueries ← Reader.defaulted "max_sql_queries" standard.maxSqlQueries Decode.word
  let slowQueryMillis ←
    Reader.defaulted "slow_query_threshold_ms" standard.slowQueryMillis Decode.word
  let allowedIps ← Reader.defaulted "allowed_ips" standard.allowedIps Decode.strings
  let maskFieldTypes ←
    Reader.defaulted "mask_field_types" standard.maskFieldTypes (Decode.dict Decode.string)
  let toolbarMode ← Reader.defaulted "toolbar_mode" standard.toolbarMode Decode.string
  pure ⟨enabled, panels, maxLogEntries, maxSqlQueries, slowQueryMillis, allowedIps, maskFieldTypes,
    toolbarMode⟩

def toJson (d : Debugging) : Json :=
  .ofFields [("enabled", .bool d.enabled), ("panels", .ofStrings d.panels),
    ("max_log_entries", .ofNat d.maxLogEntries), ("max_sql_queries", .ofNat d.maxSqlQueries),
    ("slow_query_threshold_ms", .ofNat d.slowQueryMillis), ("allowed_ips", .ofStrings d.allowedIps),
    ("mask_field_types", .ofDict .str d.maskFieldTypes), ("toolbar_mode", .str d.toolbarMode)]

def allowsIp (d : Debugging) (ip : String) : Bool :=
  d.allowedIps.isEmpty || d.allowedIps.any fun allowed => Text.trim allowed == ip

end Debugging

structure Server where
  listenAddress : Address
  enableCors : Bool
  requestTimeoutSeconds : Nat
  maxBodySize : Nat
  deriving DecidableEq, Repr

namespace Server

def standard : Server := ⟨.v4 [127, 0, 0, 1] 8080, true, 30, 10 * 1024 * 1024⟩

def decodeAddress : Decoder Address := fun v => v.asStr?.bind Address.parse?

def decode : Decoder Server := Reader.decoder do
  let listenAddress ← Reader.required "listen_addr" decodeAddress
  let enableCors ← Reader.defaulted "enable_cors" standard.enableCors Decode.bool
  let requestTimeoutSeconds ←
    Reader.defaulted "request_timeout_secs" standard.requestTimeoutSeconds Decode.word
  let maxBodySize ← Reader.defaulted "max_body_size" standard.maxBodySize Decode.word
  pure ⟨listenAddress, enableCors, requestTimeoutSeconds, maxBodySize⟩

def toJson (s : Server) : Json :=
  .ofFields [("listen_addr", .str s.listenAddress.text), ("enable_cors", .bool s.enableCors),
    ("request_timeout_secs", .ofNat s.requestTimeoutSeconds),
    ("max_body_size", .ofNat s.maxBodySize)]

end Server

structure Logging where
  level : String
  json : Bool
  deriving DecidableEq, Repr

namespace Logging

def standard : Logging := ⟨"info", false⟩

def decode : Decoder Logging := Reader.decoder do
  let level ← Reader.defaulted "level" standard.level Decode.string
  let json ← Reader.defaulted "json" standard.json Decode.bool
  pure ⟨level, json⟩

def toJson (l : Logging) : Json := .ofFields [("level", .str l.level), ("json", .bool l.json)]

end Logging

def switchable : List String :=
  [Feature.dashboard, Feature.cms, Feature.commands, Feature.search, Feature.bulk,
    Feature.preferences, Feature.workflows, Feature.assignmentQueue, Feature.debug, Feature.tenants,
    Feature.organizations]

def standardFlags : Dict Bool := Dict.ofList ((switchable.take 8).map fun key => (key, true))

def decodeSwitches : Decoder (Dict Bool) := Reader.decoder do
  let switches ← switchable.mapM fun key => do
    let on ← Reader.optional key Decode.bool
    pure (on.map fun on => (key, on))
  pure (Dict.ofList (switches.filterMap id))

def decodePermissions : Decoder (Dict String) := Reader.decoder do
  let permissions ← Guard.all.mapM fun g => do
    let permission ← Reader.defaulted g.name "" Decode.string
    pure (g.name, permission)
  pure (Dict.ofList permissions)

end Config

structure Config where
  title : String
  basePath : String
  defaultLocale : String
  theme : String
  themeVariant : String
  urls : Config.Urls
  featureFlags : Dict Bool
  switches : Dict Bool
  /-- Permissions by the name of their guard; blank ones are the guard's own. -/
  permissions : Dict String
  debug : Config.Debugging
  navMenuCode : String
  defaultEnvironment : String
  devMode : Bool
  workflowTraitDefaults : Dict String
  server : Config.Server
  logging : Config.Logging

namespace Config

def standard : Config where
  title := "Larch Admin"
  basePath := "/admin"
  defaultLocale := "en"
  theme := ""
  themeVariant := ""
  urls := .standard
  featureFlags := standardFlags
  switches := .empty
  permissions := Dict.ofList (Guard.all.map fun g => (g.name, ""))
  debug := .standard
  navMenuCode := "admin"
  defaultEnvironment := ""
  devMode := false
  workflowTraitDefaults := .empty
  server := .standard
  logging := .standard

def development : Config :=
  { standard with devMode := true, logging := ⟨"debug", false⟩ }

def decode : Decoder Config := Reader.decoder do
  let title ← Reader.defaulted "title" standard.title Decode.string
  let basePath ← Reader.defaulted "base_path" standard.basePath Decode.string
  let defaultLocale ← Reader.defaulted "default_locale" standard.defaultLocale Decode.string
  let theme ← Reader.defaulted "theme" standard.theme Decode.string
  let themeVariant ← Reader.defaulted "theme_variant" standard.themeVariant Decode.string
  let urls ← Reader.defaulted "urls" standard.urls Urls.decode
  let featureFlags ←
    Reader.defaulted "feature_flags" standard.featureFlags (Decode.dict Decode.bool)
  let switches ← Reader.defaulted "features" standard.switches decodeSwitches
  let permissions ← Reader.defaulted "permissions" standard.permissions decodePermissions
  let debug ← Reader.defaulted "debug" standard.debug Debugging.decode
  let navMenuCode ← Reader.defaulted "nav_menu_code" standard.navMenuCode Decode.string
  let defaultEnvironment ←
    Reader.defaulted "default_environment" standard.defaultEnvironment Decode.string
  let devMode ← Reader.defaulted "dev_mode" standard.devMode Decode.bool
  let workflowTraitDefaults ← Reader.defaulted "workflow_trait_defaults"
    standard.workflowTraitDefaults (Decode.dict Decode.string)
  let server ← Reader.defaulted "server" standard.server Server.decode
  let logging ← Reader.defaulted "logging" standard.logging Logging.decode
  pure ⟨title, basePath, defaultLocale, theme, themeVariant, urls, featureFlags, switches,
    permissions, debug, navMenuCode, defaultEnvironment, devMode, workflowTraitDefaults, server,
    logging⟩

def toJson (c : Config) : Json :=
  .ofFields [("title", .str c.title), ("base_path", .str c.basePath),
    ("default_locale", .str c.defaultLocale), ("theme", .str c.theme),
    ("theme_variant", .str c.themeVariant), ("urls", c.urls.toJson),
    ("feature_flags", .ofDict .bool c.featureFlags), ("features", .ofDict .bool c.switches),
    ("permissions", .ofDict .str c.permissions), ("debug", c.debug.toJson),
    ("nav_menu_code", .str c.navMenuCode), ("default_environment", .str c.defaultEnvironment),
    ("dev_mode", .bool c.devMode), ("workflow_trait_defaults", .ofDict .str c.workflowTraitDefaults),
    ("server", c.server.toJson), ("logging", c.logging.toJson)]

def validate (c : Config) : Except Fault Unit := do
  if c.basePath != "" && !Text.startsWith c.basePath "/" then
    .error (.invalid "base_path" "base_path must start with '/'")
  if Text.blank c.defaultLocale then
    .error (.invalid "default_locale" "default_locale is required")
  if Text.blank c.navMenuCode then .error (.invalid "nav_menu_code" "nav_menu_code is required")
  c.featureFlags.keys.forM Feature.checkKey
  if c.debug.enabled && c.debug.maxLogEntries == 0 then
    .error (.invalid "debug.max_log_entries"
      "max_log_entries must be positive when debug is enabled")

/-- The defaults of the feature gate: the flags, with the switches over them. -/
def featureDefaults (c : Config) : Dict Bool :=
  Dict.ofList ((c.featureFlags.entries.map fun (key, on) => (Text.key key, on)) ++ c.switches.entries)

def base (c : Config) : String := Text.trimEndOf '/' (Text.trim c.basePath)

def apiPath (c : Config) : String :=
  String.join (([c.urls.apiPrefix, c.urls.apiVersion].map fun part =>
    Text.trimOf '/' (Text.trim part)).filter (· != "") |>.map ("/" ++ ·))

def permission (c : Config) (g : Guard) : String :=
  ((c.permissions.get? g.name).bind Text.nonBlank).getD g.fallback

def permissionsJson (c : Config) : Json :=
  .ofFields (Guard.all.map fun g => (g.name, .str (c.permission g)))

end Config

end Backoffice

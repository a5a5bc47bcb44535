import Dossier.Json.Basic

/-!
# Settings

How large pages may be, how many connections a database gets, how long requests and notifications may
take. There is a preset for each environment an engine runs in.
-/

namespace Dossier

inductive Environment where
  | development
  | staging
  | production
deriving DecidableEq

def Environment.name : Environment → String
  | .development => "Development"
  | .staging => "Staging"
  | .production => "Production"

structure PageSettings where
  /-- No page is larger. -/
  maxLimit : Nat
  /-- The size of a page when none is asked for. -/
  defaultLimit : Nat
  debugLogging : Bool

structure DatabaseSettings where
  maxConnections : Nat
  /-- How long to wait for a connection, in seconds. -/
  connectionTimeout : Nat
  queryLogging : Bool

structure NotifySettings where
  queueCapacity : Nat
  /-- How long one notifier may take, in milliseconds. -/
  timeout : Nat

structure Settings where
  environment : Environment
  pages : PageSettings
  database : DatabaseSettings
  notify : NotifySettings
  /-- How long a request may take that says nothing about it, in milliseconds. -/
  requestTimeout : Nat
  auditLogging : Bool

namespace Settings

def development : Settings where
  environment := .development
  pages := ⟨1000, 50, true⟩
  database := ⟨10, 30, true⟩
  notify := ⟨1024, 10000⟩
  requestTimeout := 30000
  auditLogging := false

def staging : Settings where
  environment := .staging
  pages := ⟨500, 25, false⟩
  database := ⟨20, 10, true⟩
  notify := ⟨4096, 5000⟩
  requestTimeout := 15000
  auditLogging := true

def production : Settings where
  environment := .production
  pages := ⟨100, 20, false⟩
  database := ⟨50, 5, false⟩
  notify := ⟨8192, 5000⟩
  requestTimeout := 10000
  auditLogging := true

def preset : Environment → Settings
  | .development => development
  | .staging => staging
  | .production => production

def render (s : Settings) : Json :=
  let nat (n : Nat) : Json := .number (.int n)
  .ofMembers
    [("environment", .string s.environment.name),
      ("filter", .ofMembers [("max_limit", nat s.pages.maxLimit), ("default_limit", nat s.pages.defaultLimit),
        ("debug_logging", .bool s.pages.debugLogging)]),
      ("database", .ofMembers [("max_connections", nat s.database.maxConnections),
        ("connection_timeout", nat s.database.connectionTimeout),
        ("enable_query_logging", .bool s.database.queryLogging)]),
      ("notify", .ofMembers [("queue_capacity", nat s.notify.queueCapacity), ("timeout_ms", nat s.notify.timeout)]),
      ("request", .ofMembers [("default_timeout_ms", nat s.requestTimeout)]),
      ("security", .ofMembers [("enable_audit_logging", .bool s.auditLogging)])]

end Settings

end Dossier

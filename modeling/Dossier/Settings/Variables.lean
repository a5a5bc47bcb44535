import Dossier.Numeric.Numeral
import Dossier.Settings.Basic

/-!
# Settings from environment variables

One variable names the environment, and each of the others replaces one value of its preset. A value
that cannot be read leaves the preset's in place. At the end page sizes are put in order: at least one
record to a page, and the default no larger than the maximum.
-/

namespace Dossier

/-- The environment that a word names; development, if it names none. -/
def Environment.ofWord : String → Environment
  | "production" | "prod" => .production
  | "staging" | "stage" => .staging
  | _ => .development

/-- A natural number below a bound, in digits that may follow a plus sign. -/
def readNatural? (bound : Nat) (s : String) : Option Nat :=
  let digits :=
    match s.toList with
    | '+' :: rest => rest
    | cs => cs
  if digits.isEmpty || !digits.all Char.isDigit then none
  else if digitsValue digits < bound then some (digitsValue digits)
  else none

/-- A truth value in full. -/
def readTruth? : String → Option Bool
  | "true" => some true
  | "false" => some false
  | _ => none

/-- Page sizes in order. -/
def PageSettings.clamped (p : PageSettings) : PageSettings :=
  let maxLimit := max p.maxLimit 1
  { p with maxLimit, defaultLimit := min (max p.defaultLimit 1) maxLimit }

namespace Settings

def bound32 : Nat := 0x100000000

def bound64 : Nat := 0x10000000000000000

/-- A preset with the values of variables in place of its own. -/
def override (s : Settings) (given : Dict String String) : Settings :=
  let natural (bound : Nat) (name : String) (preset : Nat) : Nat :=
    ((given.get? name).bind (readNatural? bound)).getD preset
  let truth (name : String) (preset : Bool) : Bool := ((given.get? name).bind readTruth?).getD preset
  { s with
    pages := PageSettings.clamped {
      maxLimit := natural bound32 "FILTER_MAX_LIMIT" s.pages.maxLimit
      defaultLimit := natural bound32 "FILTER_DEFAULT_LIMIT" s.pages.defaultLimit
      debugLogging := truth "FILTER_DEBUG_LOGGING" s.pages.debugLogging }
    database := {
      maxConnections := natural bound32 "DATABASE_MAX_CONNECTIONS" s.database.maxConnections
      connectionTimeout := natural bound64 "DATABASE_CONNECTION_TIMEOUT" s.database.connectionTimeout
      queryLogging := truth "DATABASE_ENABLE_QUERY_LOGGING" s.database.queryLogging }
    notify := {
      queueCapacity := natural bound64 "NOTIFY_QUEUE_CAPACITY" s.notify.queueCapacity
      timeout := natural bound64 "NOTIFY_TIMEOUT_MS" s.notify.timeout }
    requestTimeout := natural bound64 "REQUEST_TIMEOUT_MS" s.requestTimeout
    auditLogging := truth "SECURITY_ENABLE_AUDIT_LOGGING" s.auditLogging }

def ofVariables (given : Dict String String) : Settings :=
  (preset (.ofWord ((given.get? "APP_ENV").getD ""))).override given

end Settings

end Dossier

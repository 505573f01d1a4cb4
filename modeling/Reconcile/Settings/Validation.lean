import Reconcile.Net.Socket
import Reconcile.Settings.Decode
import Reconcile.Url.Reader

namespace Reconcile

-- What is wrong with one setting.
structure SettingsError where
  field : String
  message : String
deriving DecidableEq, Repr

def SettingsError.text (e : SettingsError) : String := e.field ++ ": " ++ e.message

namespace Settings

def complaint (wrong : Bool) (field message : String) : List SettingsError :=
  if wrong then [⟨field, message⟩] else []

def isWeb (scheme : String) : Bool := scheme = "http" || scheme = "https"

def baseUrlErrors (text : String) : List SettingsError :=
  match Url.parse text with
  | .ok url =>
    complaint (!isWeb url.scheme) "dataplane.base_url" s!"unsupported scheme '{url.scheme}'"
  | .error e => [⟨"dataplane.base_url", e.message⟩]

def connectionErrors (c : Connection) : List SettingsError :=
  baseUrlErrors c.baseUrl ++
    complaint (c.requestTimeoutSecs = 0) "dataplane.request_timeout_secs" "must be > 0" ++
    complaint (c.connectTimeoutSecs = 0) "dataplane.connect_timeout_secs" "must be > 0" ++
    complaint (c.password.isSome && c.username.isNone) "dataplane.username"
      "required when a password is set"

def applyErrors (a : ApplySettings) : List SettingsError :=
  complaint (a.backoffMaxMs < a.backoffBaseMs) "apply.conflict_backoff_base_ms"
      "must not exceed apply.conflict_backoff_max_ms" ++
    complaint (a.deadlineSecs = some 0) "apply.deadline_secs" "must be > 0 when set"

-- The address of the metrics matters only where they are offered.
def observabilityErrors (o : Observability) : List SettingsError :=
  complaint (Level.ofText? o.logLevel).isNone "observability.log_level"
      s!"unknown level '{o.logLevel}'" ++
    complaint (o.metricsEnabled && (Net.Socket.parse? o.metricsAddress).isNone)
      "observability.metrics_address" s!"'{o.metricsAddress}' is not a socket address"

-- Everything that is wrong, in the order of the settings.
def errors (s : Settings) : List SettingsError :=
  connectionErrors s.connection ++ applyErrors s.apply ++ observabilityErrors s.observability

end Settings

-- Why a document brings no settings.
inductive ConfigError where
  | unreadable
  | invalid (errors : List SettingsError)
deriving DecidableEq, Repr

-- The text of the TOML reader's complaint is not part of it.
def ConfigError.message : ConfigError → String
  | .unreadable => "Parse error"
  | .invalid errors => "Validation failed: " ++ ", ".intercalate (errors.map (·.text))

namespace Settings

-- The variable of the environment that a password is taken from.
def passwordVariable : String := "DATAPLANE_PASSWORD"

-- The password of the environment takes the place of the one in the document.
def withPassword (s : Settings) (password : Option String) : Settings :=
  match password with
  | none => s
  | some p => { s with connection := { s.connection with password := some p } }

def validate (s : Settings) : Except ConfigError Settings :=
  if s.errors.isEmpty then .ok s else .error (.invalid s.errors)

def parse (text : String) (environmentPassword : Option String) : Except ConfigError Settings :=
  match ofToml? text with
  | none => .error .unreadable
  | some s => (s.withPassword environmentPassword).validate

end Settings
end Reconcile

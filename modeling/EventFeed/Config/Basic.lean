import EventFeed.Duration
import EventFeed.Json.Decode
import EventFeed.Url.Basic

/-! # Configuration

The settings of a manager: where it connects, how it retries, and how it watches a connection. Seven
fields, each with a name, a default, and a range given by its type.
-/

namespace EventFeed

structure Config where
  endpoint : String := "ws://127.0.0.1:8080/ws"
  baseReconnectDelayMs : UInt64 := 1000
  maxReconnectDelayMs : UInt64 := 30000
  /-- The retries allowed after a failure before the manager gives up. -/
  maxReconnectAttempts : UInt32 := 10
  heartbeatIntervalMs : UInt64 := 30000
  heartbeatTimeoutMs : UInt64 := 10000
  connectTimeoutMs : UInt64 := 10000
  deriving DecidableEq, Repr, Inhabited

namespace Config

/-- The fields, in the order in which they are declared. -/
inductive Field where
  | endpoint
  | baseReconnectDelay
  | maxReconnectDelay
  | maxReconnectAttempts
  | heartbeatInterval
  | heartbeatTimeout
  | connectTimeout
  deriving DecidableEq, Repr

namespace Field

def all : List Field :=
  [endpoint, baseReconnectDelay, maxReconnectDelay, maxReconnectAttempts, heartbeatInterval,
    heartbeatTimeout, connectTimeout]

def name : Field → String
  | endpoint => "endpoint"
  | baseReconnectDelay => "base_reconnect_delay_ms"
  | maxReconnectDelay => "max_reconnect_delay_ms"
  | maxReconnectAttempts => "max_reconnect_attempts"
  | heartbeatInterval => "heartbeat_interval_ms"
  | heartbeatTimeout => "heartbeat_timeout_ms"
  | connectTimeout => "connect_timeout_ms"

def ofName? (name : String) : Option Field := all.find? fun f => f.name == name

/-- The environment variable that overrides the field. -/
def envName : Field → String
  | endpoint => "REALTIME_ENDPOINT"
  | baseReconnectDelay => "REALTIME_BASE_DELAY_MS"
  | maxReconnectDelay => "REALTIME_MAX_DELAY_MS"
  | maxReconnectAttempts => "REALTIME_MAX_ATTEMPTS"
  | heartbeatInterval => "REALTIME_HEARTBEAT_INTERVAL_MS"
  | heartbeatTimeout => "REALTIME_HEARTBEAT_TIMEOUT_MS"
  | connectTimeout => "REALTIME_CONNECT_TIMEOUT_MS"

/-- The width of a numeric field. -/
def bits : Field → Nat
  | maxReconnectAttempts => 32
  | _ => 64

end Field

/-- Sets a numeric field; the endpoint has no number. -/
def setNumber (c : Config) (field : Field) (n : Nat) : Config :=
  match field with
  | .endpoint => c
  | .baseReconnectDelay => { c with baseReconnectDelayMs := UInt64.ofNat n }
  | .maxReconnectDelay => { c with maxReconnectDelayMs := UInt64.ofNat n }
  | .maxReconnectAttempts => { c with maxReconnectAttempts := UInt32.ofNat n }
  | .heartbeatInterval => { c with heartbeatIntervalMs := UInt64.ofNat n }
  | .heartbeatTimeout => { c with heartbeatTimeoutMs := UInt64.ofNat n }
  | .connectTimeout => { c with connectTimeoutMs := UInt64.ofNat n }

def number (c : Config) : Field → Nat
  | .endpoint => 0
  | .baseReconnectDelay => c.baseReconnectDelayMs.toNat
  | .maxReconnectDelay => c.maxReconnectDelayMs.toNat
  | .maxReconnectAttempts => c.maxReconnectAttempts.toNat
  | .heartbeatInterval => c.heartbeatIntervalMs.toNat
  | .heartbeatTimeout => c.heartbeatTimeoutMs.toNat
  | .connectTimeout => c.connectTimeoutMs.toNat

/-- Sets a field to a value of its type, whatever the format in which the value was found. -/
def assign (c : Config) (field : Field) (found : Found) : Except DecodeError Config :=
  match field with
  | .endpoint => do return { c with endpoint := ← found.toText }
  | _ => do return c.setNumber field (← found.toUnsigned field.bits)

def fieldJson (c : Config) (field : Field) : Json :=
  match field with
  | .endpoint => .str c.endpoint
  | _ => .int (c.number field)

/-- The fields with their values, in the order of declaration. -/
def toMembers (c : Config) : List (String × Json) :=
  Field.all.map fun f => (f.name, c.fieldJson f)

def text (c : Config) : String := Json.recordText c.toMembers

/-! ## Durations -/

def baseReconnectDelay (c : Config) : Duration := .ofMillis c.baseReconnectDelayMs

def maxReconnectDelay (c : Config) : Duration := .ofMillis c.maxReconnectDelayMs

def heartbeatInterval (c : Config) : Duration := .ofMillis c.heartbeatIntervalMs

def heartbeatTimeout (c : Config) : Duration := .ofMillis c.heartbeatTimeoutMs

def connectTimeout (c : Config) : Duration := .ofMillis c.connectTimeoutMs

/-! ## Validation -/

/-- A rule that a configuration breaks. -/
inductive Violation where
  | badUrl (endpoint : String) (error : Url.UrlError)
  | badScheme (scheme : String)
  | zero (field : Field)
  | delaysCrossed (base max : UInt64)
  deriving DecidableEq, Repr

def Violation.message : Violation → String
  | badUrl endpoint error => s!"Invalid endpoint URL {Text.quote endpoint}: {error.message}"
  | badScheme scheme => s!"Endpoint scheme must be ws or wss, got {Text.quote scheme}"
  | zero field => s!"{field.name} must be greater than zero"
  | delaysCrossed base max =>
    s!"base_reconnect_delay_ms ({base}) exceeds max_reconnect_delay_ms ({max})"

/-- The endpoint as a URL; only WebSocket schemes are accepted. -/
def endpointUrl (c : Config) : Except Violation Url :=
  match Url.parse c.endpoint with
  | .error e => .error (.badUrl c.endpoint e)
  | .ok url =>
    if url.scheme = "ws" ∨ url.scheme = "wss" then .ok url else .error (.badScheme url.scheme)

/-- The fields that must not be zero, in the order in which they are checked. -/
def positiveFields : List Field :=
  [.baseReconnectDelay, .maxReconnectDelay, .heartbeatInterval, .heartbeatTimeout, .connectTimeout]

/-- Checks every rule; the first one broken is reported. -/
def validate (c : Config) : Except Violation Unit := do
  let _ ← c.endpointUrl
  match positiveFields.find? fun f => c.number f == 0 with
  | some f => .error (.zero f)
  | none =>
    if c.maxReconnectDelayMs < c.baseReconnectDelayMs then
      .error (.delaysCrossed c.baseReconnectDelayMs c.maxReconnectDelayMs)
    else .ok ()

end Config

end EventFeed

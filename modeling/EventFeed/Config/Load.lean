import EventFeed.Config.Decode
import EventFeed.Error.Wording
import EventFeed.Files.Content
import EventFeed.Text.Blank
import EventFeed.Text.Integer
import EventFeed.Toml.Report

/-! # Loading a configuration

A configuration comes from a file, or from the defaults when there is none, and environment
variables override single fields. What is loaded has passed validation.
-/

namespace EventFeed

inductive ConfigError where
  | read (path : String) (fault : FileFault)
  | parse (path : String) (report : String)
  | environment (name value : String) (fault : Text.IntegerFault)
  | validation (violation : Config.Violation)
  deriving DecidableEq, Repr

def ConfigError.message : ConfigError → String
  | read path fault => Wording.configRead path fault.message
  | parse path report => Wording.configParse path report
  | environment name value fault => Wording.configEnvironment name value fault.message
  | validation violation => Wording.configValidation violation.message

namespace Config

def fileName : String := "realtime.toml"

def validated (c : Config) : Except ConfigError Config :=
  match c.validate with
  | .ok () => .ok c
  | .error violation => .error (.validation violation)

/-- Reads the configuration file at a path. The defaults are taken without a file. -/
def load (path : String) (file : FileContent) : Except ConfigError Config :=
  match file.text with
  | .error fault => .error (.read path fault)
  | .ok none => .ok {}
  | .ok (some source) =>
    match ofFileText source with
    | .error e => .error (.parse path (Toml.report source e.span e.message))
    | .ok c => c.validated

/-- The numeric fields, in the order in which their variables are read. -/
def numericFields : List Field :=
  [.baseReconnectDelay, .maxReconnectDelay, .maxReconnectAttempts, .heartbeatInterval,
    .heartbeatTimeout, .connectTimeout]

/-- Overrides a numeric field by its variable, if that is set. -/
def overrideNumber (env : Environment) (c : Config) (field : Field) : Except ConfigError Config :=
  match env.text? field.envName with
  | none => .ok c
  | some value =>
    match Text.parseUnsigned (2 ^ field.bits) (Text.trim value) with
    | .error fault => .error (.environment field.envName value fault)
    | .ok n => .ok (c.setNumber field n)

def overrideEndpoint (env : Environment) (c : Config) : Config :=
  match env.text? Field.endpoint.envName with
  | none => c
  | some value => { c with endpoint := value }

/-- Applies the variables and checks the outcome. -/
def applyEnvironment (env : Environment) (c : Config) : Except ConfigError Config := do
  let c ← numericFields.foldlM (overrideNumber env) (c.overrideEndpoint env)
  c.validated

end Config

end EventFeed

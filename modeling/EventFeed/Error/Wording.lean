import EventFeed.Duration
import EventFeed.Text.Quoted

/-! # The wording of errors

Each kind of error has one sentence form. Where errors enclose each other, the outer form goes in
front of the inner text.
-/

namespace EventFeed.Wording

def frame (reason : String) : String := "Frame Parse Error: " ++ reason

def eventType (name reason : String) : String :=
  s!"Invalid Event Type Error: {Text.quote name}: {reason}"

def connect (message : String) : String := "Connect Error: " ++ message

def connectTimeout (timeout : Duration) : String :=
  s!"Connect Timeout Error: no handshake after {timeout.text}"

def send (message : String) : String := "Send Error: " ++ message

def receive (message : String) : String := "Receive Error: " ++ message

def configRead (path reason : String) : String := s!"Config Read Error: {path}: {reason}"

def configParse (path reason : String) : String := s!"Config Parse Error: {path}: {reason}"

def configEnvironment (name value reason : String) : String :=
  s!"Config Environment Error: {name}={Text.quote value}: {reason}"

def configValidation (reason : String) : String := "Config Validation Error: " ++ reason

def noRuntime (message : String) : String := "No Runtime Error: " ++ message

def managerConfig (inner : String) : String := "Manager Config Error: " ++ inner

def app (message : String) : String := "Registry Watch Error: " ++ message

def logger (message : String) : String := "Logger Error: " ++ message

def paths (message : String) : String := "Paths Error: " ++ message

def appConfig (inner : String) : String := "Config Error: " ++ inner

def appRealtime (inner : String) : String := "Realtime Error: " ++ inner

end EventFeed.Wording

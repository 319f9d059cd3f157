import EventFeed.Logging.Logger
import EventFeed.Logging.Timestamp
import EventFeed.Simulation.Watcher
import EventFeed.Transport.Message
import EventFeed.Watch.Startup
import Std.Async.Signal
import Std.Time.DateTime.Timestamp

/-! # The command line

Starts the watching program and keeps it until it is interrupted. No socket is opened: every attempt
to connect ends as it does where the network cannot be reached, and the clock of the machine decides
when the next one is due.
-/

namespace EventFeed.CommandLine

/-- The log of the running process. -/
structure Desk where
  logger : IO.Ref Logger
  file : IO.Ref (Option IO.FS.Handle)

/-- The record as it is written now. -/
def lineOf (r : LogRecord) : IO LogLine := do
  let moment ← Std.Time.Timestamp.now
  return ⟨Timestamp.text moment.toNanosecondsSinceUnixEpoch.toInt.toNat, r, r.target⟩

namespace Desk

def flush (desk : Desk) : IO Unit := do
  let lines := (← desk.logger.get).lines
  desk.logger.modify fun l => { l with lines := [] }
  for line in lines do
    IO.print line.coloured
    if let some handle ← desk.file.get then
      handle.putStr line.plain
      handle.flush

def log (desk : Desk) (r : LogRecord) : IO Unit := do
  let line ← lineOf r
  desk.logger.modify (·.write line)
  desk.flush

end Desk

/-- What an error of the system says about a file. -/
def faultOf : IO.Error → FileFault
  | .alreadyExists .. => .alreadyExists
  | .inappropriateType .. => .notADirectory
  | .permissionDenied .. => .accessDenied
  | _ => .notFound

/-- The environment in which the process was started. -/
def environment : IO Environment := do
  match ← (IO.FS.readBinFile "/proc/self/environ").toBaseIO with
  | .ok block => return .ofBlock [] block.toList
  | .error _ => return {}

def variableFile (path : String) : IO (Option (Path × ByteArray)) := do
  match ← (IO.FS.readBinFile path).toBaseIO with
  | .ok content => return some (Path.ofText path, content)
  | .error _ => return none

/-- The first variable file in one of some directories. -/
def firstFile : List String → IO (Option (Path × ByteArray))
  | [] => return none
  | dir :: rest => do
    match ← variableFile (dir ++ "/.env") with
    | some file => return some file
    | none => firstFile rest

/-- A directory given by the names that lead to it, last first, and those above it. -/
def upwards : List String → List String
  | [] => [""]
  | name :: above => "/".intercalate ("" :: (name :: above).reverse) :: upwards above

def namesOf (path : String) : List String := (path.splitOn "/").filter (!·.isEmpty)

/-- Creates a directory with those above it. Where a file stands in the way, it matters whether it
has the place of the directory itself. -/
def createDirs (p : Path) : IO (Except FileFault Unit) := do
  match ← (IO.FS.createDirAll p.display).toBaseIO with
  | .ok () => return .ok ()
  | .error (.alreadyExists ..) =>
    match ← (IO.FS.Handle.mk p.display .read).toBaseIO with
    | .ok _ => return .error .alreadyExists
    | .error e => return .error (faultOf e)
  | .error e => return .error (faultOf e)

def Desk.openLog (desk : Desk) (threshold : LogThreshold) (dir : Path) :
    IO (Except String Unit) := do
  let opened ← (IO.FS.Handle.mk (dir.join Logger.fileName).display .append).toBaseIO
  let created : Except FileFault Unit ←
    match opened with
    | .ok handle =>
      desk.file.set (some handle)
      pure (.ok ())
    | .error e => pure (.error (faultOf e))
  let sample ← lineOf (.watch .info "")
  let logger ← desk.logger.get
  let (result, logger) := logger.setUp (fun r => { sample with record := r }) threshold dir created
  desk.logger.set logger
  desk.flush
  return result

def contentOf (p : Path) : IO FileContent := do
  match ← (IO.FS.readBinFile p.display).toBaseIO with
  | .ok content => return .bytes content
  | .error (.inappropriateType ..) => return .directory
  | .error _ => return .absent

/-- The entries of a line that are set apart by colons. -/
def entriesOf (line : String) : List String := line.splitOn ":"

/-- The number of the user as which the process runs, from what the system says of its state. -/
def userNumber? (status : String) : Option String :=
  (status.splitOn "\n").findSome? fun line =>
    match entriesOf line with
    | ["Uid", numbers] => (numbers.splitOn "\t").find? (!·.isEmpty)
    | _ => none

/-- The home directory of a user in the list of accounts. -/
def accountHome? (accounts number : String) : Option Path :=
  (accounts.splitOn "\n").findSome? fun line =>
    match entriesOf line with
    | [_, _, user, _, _, home, _] =>
      if user = number && !home.isEmpty then some (Path.ofText home) else none
    | _ => none

/-- The home directory of the account that runs the process. -/
def accountHome : IO (Option Path) := do
  let status ← (IO.FS.readFile "/proc/self/status").toBaseIO
  let accounts ← (IO.FS.readFile "/etc/passwd").toBaseIO
  match status, accounts with
  | .ok status, .ok accounts => return (userNumber? status).bind (accountHome? accounts)
  | _, _ => return none

/-- The machine on which the process runs. -/
def Desk.host (desk : Desk) (account : Option Path) : Host IO where
  build := .debug
  user := .ofAccount account
  environment := environment
  workingFile := do
    firstFile (upwards (namesOf (← IO.currentDir).toString).reverse)
  besideFile := do
    firstFile ((upwards (namesOf (← IO.appPath).toString).reverse.tail).take 1)
  createDirs := createDirs
  openLog := desk.openLog
  log := desk.log
  contentOf := contentOf

open Simulation

def Desk.report (desk : Desk) (watcher : Watcher) : IO Watcher := do
  let (entries, world) := watcher.world.takeJournal
  for (_, entry) in entries do
    match entry with
    | .logged r => desk.log r
    | _ => pure ()
  return { watcher with world }

/-- Lets the time of the watcher follow that of the machine until the process is interrupted. -/
partial def Desk.attend (desk : Desk) (interrupt : Std.Async.AsyncTask Int) (start : Nat)
    (watcher : Watcher) : IO Watcher := do
  let elapsed := (← IO.monoMsNow) - start
  let world := watcher.world.elapse (elapsed - watcher.world.now)
  let watcher ← desk.report { watcher with world }
  if ← IO.hasFinished interrupt then return watcher
  IO.sleep 20
  desk.attend interrupt start watcher

/-- Keeps a watcher with a configuration until the process is interrupted. -/
def Desk.watch (desk : Desk) (config : Config) : ExceptT AppError IO Unit := do
  let threshold := (← desk.logger.get).maxThreshold
  let refused : OpenScript := { answer := .refuse SocketFault.unreachable.message }
  let scenario : Scenario := { manager := ⟨config, ""⟩, fallback := refused, threshold }
  let (result, watcher) := Watcher.start ⟨World.start scenario [], false⟩ true
  let watcher ← desk.report watcher
  match result with
  | .error e => throw (.realtime e)
  | .ok () =>
    let interrupt ← (← Std.Async.Signal.Waiter.mk .sigint false).wait
    let watcher ← desk.attend interrupt (← IO.monoMsNow) watcher
    desk.log Startup.shutdown
    let _ ← desk.report watcher.stop

/-- Runs the program; the result is its exit code. -/
def run : IO UInt32 := do
  let desk : Desk := ⟨← IO.mkRef {}, ← IO.mkRef none⟩
  match ← (Startup.run (desk.host (← accountHome)) >>= desk.watch).run with
  | .ok () => return 0
  | .error e =>
    desk.log (Startup.failure e)
    IO.eprintln (Startup.complaint e)
    return 1

end EventFeed.CommandLine

def main : IO UInt32 := EventFeed.CommandLine.run

import EventFeed.Config.Load
import EventFeed.Environment.File
import EventFeed.Files.Path
import EventFeed.Logging.Record
import EventFeed.Watch.Error
import EventFeed.Watch.Paths

/-! # Starting the watching program

First the variable files, then the directories, which may depend on them, then the log, and last the
configuration. The first thing that fails stops the start.
-/

namespace EventFeed

/-- What the start needs from the system on which the program runs. -/
structure Host (m : Type → Type) where
  build : Build
  user : UserDirectories
  environment : m Environment
  /-- The variable file of the working directory, with its path. -/
  workingFile : m (Option (Path × ByteArray))
  /-- The variable file beside the program, with its path. -/
  besideFile : m (Option (Path × ByteArray))
  createDirs : Path → m (Except FileFault Unit)
  /-- Sets up the log in a directory; it fails with a message. -/
  openLog : LogThreshold → Path → m (Except String Unit)
  log : LogRecord → m Unit
  contentOf : Path → m FileContent

namespace Startup

/-- What is reported once the log is there. -/
def announcements (paths : WatchPaths) (variableFile : Option Path) : List LogRecord :=
  ["Registry watch starting", "Paths from " ++ paths.source.describe,
    "Config directory: " ++ paths.configDir.display,
    "Log directory: " ++ paths.logDir.display].map (.watch .info)
    ++ (variableFile.map fun p => .watch .info ("Loaded .env from: " ++ p.display)).toList

/-- The directories, or what is wrong without one for configurations. -/
def detectPaths (user : UserDirectories) (env : Environment) : Except AppError WatchPaths :=
  match WatchPaths.detect user env with
  | some p => .ok p
  | none => .error (.paths s!"No platform config directory; set {configDirVariable}")

def createFailure (dir : Path) (fault : FileFault) : AppError :=
  .app s!"Failed to create log directory {dir.display}: {fault.message}"

/-- The configuration of a directory with what the variables override. -/
def configure (env : Environment) (configDir : Path) (file : FileContent) :
    Except AppError Config :=
  let loaded := Config.load (configDir.join Config.fileName).display file
  match loaded >>= Config.applyEnvironment env with
  | .ok c => .ok c
  | .error e => .error (.config e)

variable {m : Type → Type} [Monad m]

/-- Starts the program up to its configuration. -/
def run (host : Host m) : ExceptT AppError m Config := do
  let working ← host.workingFile
  let beside ← host.besideFile
  let (loaded, env) := (← host.environment).loadFiles (working.map (·.2)) (beside.map (·.2))
  let variableFile := match loaded with
    | some .workingDirectory => working.map (·.1)
    | some .besideProgram => beside.map (·.1)
    | none => none
  let paths ← ExceptT.mk (pure (detectPaths host.user env))
  match ← host.createDirs paths.logDir with
  | .error fault => throw (createFailure paths.logDir fault)
  | .ok () =>
    match ← host.openLog (.ofEnvironment host.build env) paths.logDir with
    | .error message => throw (.logger message)
    | .ok () =>
      (announcements paths variableFile).forM fun r => ExceptT.lift (host.log r)
      let file ← host.contentOf (paths.configDir.join Config.fileName)
      ExceptT.mk (pure (configure env paths.configDir file))

/-- The record at the end of a run that is stopped by its user. -/
def shutdown : LogRecord := .watch .info "Shutdown requested"

def failure (e : AppError) : LogRecord := .watch .error e.message

/-- What the program says on standard error. -/
def complaint (e : AppError) : String := "registry-watch: " ++ e.message

end Startup

end EventFeed

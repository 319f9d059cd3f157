import EventFeed.Environment.Basic
import EventFeed.Files.Path

/-! # Directories

Where the configuration is read and the log is written. One variable names a directory for both;
without it they go to the directories that the platform sets aside for a user's programs.
-/

namespace EventFeed

/-- How the directories were chosen. -/
inductive PathSource where
  | override
  | platform
  deriving DecidableEq, Repr

/-- The variable that names one directory for everything. -/
def configDirVariable : String := "REGISTRY_WATCH_CONFIG_DIR"

def PathSource.describe : PathSource → String
  | override => configDirVariable ++ " override"
  | platform => "platform defaults"

/-- The directories that a platform sets aside for its user, which can depend on the variables of
the process. There need not be any. -/
structure UserDirectories where
  config : Environment → Option Path
  data : Environment → Option Path

namespace UserDirectories

def homeVariable : String := "HOME"

def configVariable : String := "XDG_CONFIG_HOME"

def dataVariable : String := "XDG_DATA_HOME"

/-- The home directory: the one that the variable names, or else that of the user's account. -/
def home (account : Option Path) (env : Environment) : Option Path :=
  match env.bytes? homeVariable with
  | some dir => if dir.isEmpty then account else some dir
  | none => account

/-- A directory of one kind: that of a variable if it is absolute, and otherwise a fixed place
below the home directory. -/
def place (account : Option Path) (name fallback : String) (env : Environment) : Option Path :=
  match env.bytes? name with
  | some dir => if Path.isAbsolute dir then some dir else below
  | none => below
where
  below : Option Path := (home account env).map fun dir => Path.join dir fallback

/-- The directories of a user on a free desktop, by the home directory of the account. -/
def ofAccount (account : Option Path) : UserDirectories where
  config := place account configVariable ".config"
  data := place account dataVariable ".local/share"

end UserDirectories

structure WatchPaths where
  /-- Holds the configuration file. -/
  configDir : Path
  logDir : Path
  source : PathSource

namespace WatchPaths

def appDir : String := "registry-watch"

def logDirName : String := "logs"

/-- The directories of the program, with those of its user given. -/
def detect (user : UserDirectories) (env : Environment) : Option WatchPaths :=
  match env.text? configDirVariable with
  | some dir =>
    let configDir := Path.ofText dir
    some ⟨configDir, configDir.join logDirName, .override⟩
  | none => do
    let configDir := (← user.config env).join appDir
    let logDir := match user.data env with
      | some data => (data.join appDir).join logDirName
      | none => configDir.join logDirName
    return ⟨configDir, logDir, .platform⟩

end WatchPaths

end EventFeed

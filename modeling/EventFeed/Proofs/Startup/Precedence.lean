import EventFeed.Proofs.Config.Fields
import EventFeed.Proofs.Environment.Adoption
import EventFeed.Watch.Startup

/-! # Which source counts

When the program starts, every field of its configuration takes its value from the first source that
has one for it: the variables of the process, the variable file of the working directory, the one
beside the program, the configuration file, and the defaults. The directory of the configuration
file is itself looked up among the variables, those of the variable files included.
-/

namespace EventFeed

/-- Where the value of a field can come from, in the order in which they count. -/
inductive Source where
  | process
  | workingFile
  | besideFile
  | configFile
  | default
  deriving DecidableEq, Repr

namespace Source

def all : List Source := [process, workingFile, besideFile, configFile, default]

theorem findSome?_all {α : Type} (find : Source → Option α) :
    all.findSome? find = (find process).or ((find workingFile).or ((find besideFile).or
      ((find configFile).or (find default)))) := by
  simp only [all, List.findSome?_cons, List.findSome?_nil]
  cases find process <;> cases find workingFile <;> cases find besideFile <;>
    cases find configFile <;> cases find default <;> rfl

end Source

namespace UserDirectories

/-- The variables on which the directories of a user can depend. -/
def names : List String := [configVariable, dataVariable, homeVariable]

/-- Some variables decide about the directories, and no others do. -/
def ReadsOnly (user : UserDirectories) (deciding : List String) : Prop :=
  ∀ env env' : Environment, (∀ n ∈ deciding, env'.bytes? n = env.bytes? n) →
    user.config env' = user.config env ∧ user.data env' = user.data env

theorem readsOnly_ofAccount (account : Option Path) :
    (ofAccount account).ReadsOnly names := by
  intro env env' h
  simp only [names, List.forall_mem_cons] at h
  obtain ⟨hconfig, hdata, hhome, -⟩ := h
  have hplace : ∀ name fallback, env'.bytes? name = env.bytes? name →
      place account name fallback env' = place account name fallback env := by
    intro name fallback hname
    simp only [place, place.below, home, hname, hhome]
  exact ⟨hplace _ _ hconfig, hplace _ _ hdata⟩

end UserDirectories

namespace Startup

variable (host : Host Id)

/-- What the variable file of the working directory says up to its first bad line. -/
def firstReading : Environment.FileReading :=
  host.environment.run.firstReading (host.workingFile.run.map (·.2))

/-- What the variable file beside the program says up to its first bad line, if it is looked at. -/
def secondReading : Environment.FileReading :=
  host.environment.run.secondReading (host.workingFile.run.map (·.2))
    (host.besideFile.run.map (·.2))

/-- The variables once the variable files have been taken over. -/
def allVariables : Environment :=
  (host.environment.run.loadFiles (host.workingFile.run.map (·.2))
    (host.besideFile.run.map (·.2))).2

/-- What the configuration directory holds in the place of the configuration file. -/
def configFile (paths : WatchPaths) : FileContent :=
  (host.contentOf (paths.configDir.join Config.fileName)).run

/-- The configuration with which the program starts, unless its directories, the file or a variable
is at fault. -/
def configuration : Except AppError Config := do
  let paths ← detectPaths host.user (allVariables host)
  configure (allVariables host) paths.configDir (configFile host paths)

/-- What a source has for a field. -/
def definition? (field : Config.Field) : Source → Option Config.Definition
  | .process => Config.definedBy host.environment.run field
  | .workingFile => ((firstReading host).assignments.lookup field.envName).map .text
  | .besideFile => ((secondReading host).assignments.lookup field.envName).map .text
  | .configFile => (detectPaths host.user (allVariables host)).toOption.bind fun paths =>
    Config.definedIn (configFile host paths) field
  | .default => some .standard

variable {host} {c : Config}

/-- A start that succeeds ends with this configuration. -/
theorem configuration_of_run (h : (run host).run.run = .ok c) : configuration host = .ok c := by
  obtain ⟨working, hworking, h⟩ := exists_of_run_bind h
  obtain ⟨beside, hbeside, h⟩ := exists_of_run_bind h
  obtain ⟨environment, henvironment, h⟩ := exists_of_run_bind h
  obtain rfl := Except.ok.inj hworking
  obtain rfl := Except.ok.inj hbeside
  obtain rfl := Except.ok.inj henvironment
  obtain ⟨paths, hpaths, h⟩ := exists_of_run_bind h
  obtain ⟨created, _, h⟩ := exists_of_run_bind h
  cases created with
  | error fault => cases h
  | ok _ =>
      obtain ⟨opened, _, h⟩ := exists_of_run_bind h
      cases opened with
      | error message => cases h
      | ok _ =>
          obtain ⟨_, _, h⟩ := exists_of_run_bind h
          obtain ⟨file, hfile, h⟩ := exists_of_run_bind h
          obtain rfl := Except.ok.inj hfile
          have hdetect : detectPaths host.user (allVariables host) = .ok paths := hpaths
          rw [configuration, hdetect]
          exact h

theorem allVariables_text? (name : String) :
    (allVariables host).text? name =
      (host.environment.run.text? name).or (((firstReading host).assignments.lookup name).or
        ((secondReading host).assignments.lookup name)) := by
  rw [allVariables, Environment.loadFiles_eq, Environment.text?_adoptAll,
    Environment.text?_adoptAll, Option.or_assoc]
  rfl

theorem allVariables_bytes? (name : String) :
    (allVariables host).bytes? name =
      if host.environment.run.text? name = none then
        ((((firstReading host).assignments.lookup name).or
          ((secondReading host).assignments.lookup name)).map String.toUTF8).or
            (host.environment.run.bytes? name)
      else host.environment.run.bytes? name := by
  rw [allVariables, Environment.loadFiles_eq, Environment.bytes?_adoptAll,
    Environment.bytes?_adoptAll, Environment.text?_adoptAll, ← firstReading, ← secondReading]
  cases host.environment.run.text? name with
  | none =>
      cases (firstReading host).assignments.lookup name <;>
        cases (secondReading host).assignments.lookup name <;> rfl
  | some text => rfl

theorem allVariables_of_complete (h : (firstReading host).complete = true) :
    allVariables host = host.environment.run.adoptAll (firstReading host).assignments := by
  have hsecond : (secondReading host).assignments = [] := by
    unfold firstReading at h
    rw [secondReading, Environment.secondReading, if_pos h]
  rw [allVariables, Environment.loadFiles_eq, ← firstReading, ← secondReading, hsecond]
  rfl

theorem configuration_eq_ok :
    configuration host = .ok c ↔ ∃ paths c₀,
      detectPaths host.user (allVariables host) = .ok paths ∧
      Config.load (paths.configDir.join Config.fileName).display (configFile host paths) = .ok c₀ ∧
      c₀.applyEnvironment (allVariables host) = .ok c := by
  constructor
  · intro h
    obtain ⟨paths, hpaths, h⟩ := exists_of_bind_ok h
    unfold configure at h
    dsimp only at h
    split at h
    next c' hboth =>
      obtain ⟨c₀, hload, happly⟩ := exists_of_bind_ok hboth
      rw [← Except.ok.inj h]
      exact ⟨paths, c₀, hpaths, hload, happly⟩
    next => cases h
  · rintro ⟨paths, c₀, hpaths, hload, happly⟩
    simp [configuration, configure, hpaths, hload, happly, bind, Except.bind]

theorem definition?_value (h : configuration host = .ok c) (field : Config.Field) :
    (Source.all.findSome? (definition? host field)).bind (·.value? field) =
      some (c.fieldJson field) := by
  obtain ⟨paths, c₀, hpaths, hload, happly⟩ := configuration_eq_ok.mp h
  have htakes := (Config.takes_load hload field).trans (Config.takes_applyEnvironment happly field)
  have hfirst : Source.all.findSome? (definition? host field) =
      some (((Config.definedBy (allVariables host) field).or
        (Config.definedIn (configFile host paths) field)).getD .standard) := by
    rw [Source.findSome?_all]
    simp only [definition?, hpaths, Except.toOption, Option.bind_some, Config.definedBy,
      allVariables_text?]
    cases host.environment.run.text? field.envName <;>
      cases (firstReading host).assignments.lookup field.envName <;>
        cases (secondReading host).assignments.lookup field.envName <;>
          cases Config.definedIn (configFile host paths) field <;> rfl
  rw [hfirst, Option.bind_some]
  exact htakes.value?

/-! ## Independence of the fields -/

/-- Two starts of one user that meet the same but for one variable: the process and the variable
files may set it differently. -/
structure AgreeBut (name : String) (host other : Host Id) : Prop where
  user : other.user = host.user
  process : ∀ n, n ≠ name → other.environment.run.bytes? n = host.environment.run.bytes? n
  workingFile : ∀ n, n ≠ name →
    (firstReading other).assignments.lookup n = (firstReading host).assignments.lookup n
  besideFile : ∀ n, n ≠ name →
    (secondReading other).assignments.lookup n = (secondReading host).assignments.lookup n
  contentOf : other.contentOf = host.contentOf

variable {other : Host Id} {name : String}

theorem AgreeBut.allVariables (h : AgreeBut name host other) {n : String} (hn : n ≠ name) :
    (allVariables other).bytes? n = (Startup.allVariables host).bytes? n := by
  rw [allVariables_bytes?, allVariables_bytes?, Environment.text?, Environment.text?,
    h.process n hn, h.workingFile n hn, h.besideFile n hn]

/-- The variables that decide about the directories. -/
def directoryVariables : List String := configDirVariable :: UserDirectories.names

theorem detect_congr {user : UserDirectories} (huser : user.ReadsOnly UserDirectories.names)
    {env env' : Environment} (h : ∀ n ∈ directoryVariables, env'.bytes? n = env.bytes? n) :
    WatchPaths.detect user env' = WatchPaths.detect user env := by
  obtain ⟨hdir, hvariables⟩ := List.forall_mem_cons.mp h
  obtain ⟨hconfig, hdata⟩ := huser env env' hvariables
  simp only [WatchPaths.detect, Environment.text?, hdir, hconfig, hdata]

theorem envName_injective {f g : Config.Field} (h : f.envName = g.envName) : f = g := by
  cases f <;> cases g <;> first | rfl | exact absurd h (by decide)

theorem AgreeBut.definition? {g field : Config.Field} (h : AgreeBut g.envName host other)
    (huser : host.user.ReadsOnly UserDirectories.names) (hfield : field ≠ g) (source : Source) :
    definition? other field source = Startup.definition? host field source := by
  have hname : field.envName ≠ g.envName := fun heq => hfield (envName_injective heq)
  cases source with
  | process =>
      simp only [Startup.definition?, Config.definedBy, Environment.text?, h.process _ hname]
  | workingFile => simp only [Startup.definition?, h.workingFile _ hname]
  | besideFile => simp only [Startup.definition?, h.besideFile _ hname]
  | configFile =>
      have hdetect : WatchPaths.detect host.user (Startup.allVariables other) =
          WatchPaths.detect host.user (Startup.allVariables host) := by
        refine detect_congr huser ?_
        intro n hn
        refine h.allVariables ?_
        rintro rfl
        exact absurd hn (by cases g <;> decide)
      simp only [Startup.definition?, detectPaths, h.user, hdetect, configFile, h.contentOf]
  | default => rfl

/-! ## The start of the program -/

/-- Every field takes its value from the first source that has one for it.

The variables are those of the process, and where these have no text, those of the variable files in
their order; what had a text before the start still has it. The file beside the program makes no
difference when that of the working directory is there and has no bad line. Where the platform finds
the directories of its user does not matter for any of this.

Where it goes by the usual variables, a variable for one field makes no difference to any other. The
assignments of the files are taken as they have been read, with what they refer to replaced: a file
that says `REALTIME_BASE_DELAY_MS=${REALTIME_MAX_ATTEMPTS}` carries the one variable over into the
other, and two starts with such a file and different attempts do not agree on the base delay. -/
theorem fields_take_their_first_definition (h : configuration host = .ok c) :
    (∀ field, (Source.all.findSome? (Startup.definition? host field)).bind (·.value? field) =
      some (c.fieldJson field)) ∧
    (∀ name, (allVariables host).text? name =
      (host.environment.run.text? name).or (((firstReading host).assignments.lookup name).or
        ((secondReading host).assignments.lookup name))) ∧
    (∀ name, (host.environment.run.text? name).isSome →
      (allVariables host).bytes? name = host.environment.run.bytes? name) ∧
    (∀ other : Host Id, (firstReading host).complete = true →
      other.environment = host.environment → other.workingFile = host.workingFile →
        allVariables other = allVariables host) ∧
    (host.user.ReadsOnly UserDirectories.names →
      ∀ (other : Host Id) (c' : Config) (g : Config.Field), configuration other = .ok c' →
        AgreeBut g.envName host other → ∀ field, field ≠ g →
          c'.fieldJson field = c.fieldJson field) := by
  refine ⟨definition?_value h, allVariables_text?, ?_, ?_, ?_⟩
  · intro name hset
    rw [allVariables_bytes?, if_neg]
    intro hnone
    rw [hnone] at hset
    cases hset
  · intro other hcomplete henvironment hworking
    have hother : (firstReading other).complete = true := by
      rw [firstReading, henvironment, hworking]
      exact hcomplete
    rw [allVariables_of_complete hother, allVariables_of_complete hcomplete, firstReading,
      firstReading, henvironment, hworking]
  · intro huser other c' g h' hagree field hfield
    have hsources : Startup.definition? other field = Startup.definition? host field := by
      funext source
      exact hagree.definition? huser hfield source
    have hvalue := definition?_value h' field
    rw [hsources, definition?_value h field] at hvalue
    exact (Option.some.inj hvalue).symm

/-- A start at which every source has something to say. The variable file of the working directory
has a bad line, and names the directory for configurations; the home directory is that of the
account. -/
def contested (given : List (String × ByteArray)) : Host Id where
  build := .release
  user := .ofAccount (some (.ofText "/home/user"))
  environment := (⟨("HOME", .empty) :: given⟩ : Environment)
  workingFile := some (.ofText "/work/.env",
    "XDG_CONFIG_HOME=/etc\nREALTIME_MAX_ATTEMPTS=1\n?".toUTF8)
  besideFile := some (.ofText "/opt/.env", "REALTIME_BASE_DELAY_MS=5".toUTF8)
  createDirs _ := .ok ()
  openLog _ _ := .ok ()
  log _ := ()
  contentOf path :=
    if path = .ofText "/etc/registry-watch/realtime.toml" then
      .bytes "connect_timeout_ms = 6".toUTF8
    else .absent

/-- What the configuration file of that start says, and what comes of it. -/
def contestedFile : Config := { connectTimeoutMs := 6 }

def settled (attempts : UInt32) : Config :=
  { contestedFile with baseReconnectDelayMs := 5, maxReconnectAttempts := attempts }

theorem valid_contestedFile : contestedFile.Valid := by
  refine ⟨Config.valid_default.endpoint, ?_, by decide⟩
  intro f
  cases f <;> decide

theorem valid_settled (attempts : UInt32) : (settled attempts).Valid := by
  have hnone : (settled 0).Valid := by
    refine ⟨Config.valid_default.endpoint, ?_, by decide⟩
    intro f
    cases f <;> decide
  refine ⟨hnone.endpoint, ?_, hnone.ordered⟩
  intro f hendpoint hattempts
  cases f with
  | maxReconnectAttempts => exact absurd rfl hattempts
  | _ => exact hnone.positive _ hendpoint hattempts

theorem configuration_contested {given : List (String × ByteArray)} {attempts : UInt32}
    (hdir : (detectPaths (contested given).user
      (allVariables (contested given))).toOption.map WatchPaths.configDir =
        some (.ofText "/etc/registry-watch"))
    (hnumbers : (Config.numericFields.foldlM
      (Config.overrideNumber (allVariables (contested given)))
        (contestedFile.overrideEndpoint (allVariables (contested given)))).toOption =
          some (settled attempts)) :
    configuration (contested given) = .ok (settled attempts) := by
  have hread : Config.ofFileText "connect_timeout_ms = 6" = .ok contestedFile := by rfl
  obtain ⟨paths, hpaths, hdir⟩ := Option.map_eq_some_iff.mp hdir
  have hcontent : (configFile (contested given) paths).text =
      .ok (some "connect_timeout_ms = 6") := by
    have hpath : (Path.ofText "/etc/registry-watch").join Config.fileName =
        .ofText "/etc/registry-watch/realtime.toml" := by
      decide +kernel
    have hbytes : ((contested given).contentOf
        (.ofText "/etc/registry-watch/realtime.toml")).run =
          .bytes "connect_timeout_ms = 6".toUTF8 := by simp [contested, Id.run]
    rw [configFile, hdir, hpath, hbytes]
    rfl
  refine configuration_eq_ok.mpr ⟨paths, contestedFile, eq_ok_of_toOption hpaths, ?_, ?_⟩
  · exact Config.load_eq_ok.mpr (.inr ⟨_, hcontent, hread, valid_contestedFile⟩)
  · exact Config.applyEnvironment_eq_ok.mpr ⟨eq_ok_of_toOption hnumbers, valid_settled attempts⟩

/-- Such a start with the attempts set for the process, and one that leaves them to the files. -/
theorem fields_take_their_first_definition_contested :
    configuration (contested [("REALTIME_MAX_ATTEMPTS", " 7 ".toUTF8)]) = .ok (settled 7) ∧
      configuration (contested []) = .ok (settled 1) ∧
      (∀ field, (Source.all.findSome? (Startup.definition?
        (contested [("REALTIME_MAX_ATTEMPTS", " 7 ".toUTF8)]) field)).bind (·.value? field) =
          some ((settled 7).fieldJson field)) ∧
      ∀ field, field ≠ .maxReconnectAttempts →
        (settled 1).fieldJson field = (settled 7).fieldJson field := by
  have hset : configuration (contested [("REALTIME_MAX_ATTEMPTS", " 7 ".toUTF8)]) =
      .ok (settled 7) :=
    configuration_contested (by decide +kernel) (by decide +kernel)
  have hunset : configuration (contested []) = .ok (settled 1) :=
    configuration_contested (by decide +kernel) (by decide +kernel)
  have hagree : AgreeBut (Config.Field.envName .maxReconnectAttempts)
      (contested [("REALTIME_MAX_ATTEMPTS", " 7 ".toUTF8)]) (contested []) := by
    have hfirst : (firstReading (contested [])).assignments =
        (firstReading (contested [("REALTIME_MAX_ATTEMPTS", " 7 ".toUTF8)])).assignments := by
      decide +kernel
    have hsecond : (secondReading (contested [])).assignments =
        (secondReading (contested [("REALTIME_MAX_ATTEMPTS", " 7 ".toUTF8)])).assignments := by
      decide +kernel
    refine ⟨rfl, ?_, ?_, ?_, rfl⟩
    · intro n hn
      have hname : ("REALTIME_MAX_ATTEMPTS" == n) = false := beq_false_of_ne (Ne.symm hn)
      simp only [contested, Id.run, Environment.bytes?, List.find?_cons, hname]
    · intro n _
      rw [hfirst]
    · intro n _
      rw [hsecond]
  obtain ⟨hfields, -, -, -, hother⟩ := fields_take_their_first_definition hset
  exact ⟨hset, hunset, hfields,
    hother (UserDirectories.readsOnly_ofAccount _) (contested []) (settled 1) _ hunset hagree⟩

end Startup

end EventFeed

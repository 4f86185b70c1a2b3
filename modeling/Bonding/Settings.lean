import Bonding.Text.Path
import Bonding.Text.Integer

/-!
The daemon's settings, read from its environment. A variable that is set counts even when it is
empty; one that is unset takes its default, and a few have none and must be set. The recorder is
one of `none`, `sqlite` and `postgres`, and only `postgres` reads the database connection. Last,
paths that start with `~/` are placed under the home directory. Reading stops at the first
fault, and the settings read up to then stay as they are.
-/

namespace Bonding

/-- Environment variables by name; of two bindings of one name the later one counts. -/
structure Environment where
  bindings : List (String × String)

namespace Environment

def get? (env : Environment) (name : String) : Option String :=
  (env.bindings.reverse.find? (·.1 == name)).map (·.2)

def getD (env : Environment) (name fallback : String) : String :=
  (env.get? name).getD fallback

/-- Whether a binding can be set: its name is not empty and holds no `=`, and neither name nor
value holds a NUL. -/
def settable (binding : String × String) : Bool :=
  !binding.1.isEmpty && !binding.1.contains '=' && !binding.1.contains '\x00' &&
    !binding.2.contains '\x00'

/-- The environment that setting bindings one by one gives: those that cannot be set are left
unset. -/
def ofSettable (bindings : List (String × String)) : Environment := ⟨bindings.filter settable⟩

end Environment

/-- The daemon's settings; every one is empty (or zero) until it is read. -/
structure Settings where
  logLevel : String := ""
  logFormat : String := ""
  stateBackend : String := ""
  stateDir : String := ""
  recorder : String := ""
  sqlitePath : String := ""
  genesisFile : String := ""
  genesisAdmin : String := ""
  genesisTreasury : String := ""
  rebaseSchedule : String := ""
  keeperAddress : String := ""
  httpListen : String := ""
  grpcListen : String := ""
  postgresHost : String := ""
  postgresPort : Int := 0
  postgresUser : String := ""
  postgresPassword : String := ""
  postgresDbName : String := ""
  postgresSslMode : String := ""

namespace Settings

abbrev Reading := ExceptT String (StateM Settings)

def recorders : List String := ["none", "sqlite", "postgres"]

def required (env : Environment) (name : String) : Except String String :=
  match env.get? name with
  | some v => .ok v
  | none => .error ("environment variable " ++ name ++ " is required but not set")

def intOrDefault (env : Environment) (name : String) (fallback : Int) : Except String Int :=
  match env.get? name with
  | none | some "" => .ok fallback
  | some v =>
    match readInt64? v with
    | some n => .ok n
    | none => .error ("environment variable " ++ name ++ " must be a valid int, got: " ++ v)

/-- A path with `~/` in front placed under the home directory; the home directory must be set
and not empty. -/
def expandHome (env : Environment) (path : String) : Except String String :=
  if !path.startsWith "~/" then .ok path else
  match env.get? "HOME" with
  | none | some "" => .error "$HOME is not defined"
  | some home => .ok (Path.join [home, (path.drop 2).toString])

/-- Stores a value read by a step that may fail: on failure the setting is left empty by
`onFailure` and the fault stops the reading. -/
def store {α : Type} (r : Except String α) (onFailure : Settings → Settings)
    (update : α → Settings → Settings) : Reading Unit :=
  match r with
  | .ok v => modify (update v)
  | .error e => do
    modify onFailure
    throw e

/-- Reads the connection to the history database. -/
def readPostgres (env : Environment) : Reading Unit := do
  modify fun s => { s with postgresHost := env.getD "DB_HOST" "localhost" }
  store (intOrDefault env "DB_PORT" 5432)
    (fun s => { s with postgresPort := 0 }) (fun v s => { s with postgresPort := v })
  store (required env "DB_USER")
    (fun s => { s with postgresUser := "" }) (fun v s => { s with postgresUser := v })
  modify fun s => { s with postgresPassword := env.getD "DB_PASSWORD" "" }
  store (required env "DB_NAME")
    (fun s => { s with postgresDbName := "" }) (fun v s => { s with postgresDbName := v })
  modify fun s => { s with postgresSslMode := env.getD "DB_SSLMODE" "disable" }

/-- Reads all settings from an environment, in the order that decides which fault is met
first. -/
def read (env : Environment) : Reading Unit := do
  modify fun s =>
    { s with
      logLevel := env.getD "LOG_LEVEL" "info"
      logFormat := env.getD "LOG_FORMAT" "console"
      stateBackend := env.getD "STATE_BACKEND" "goleveldb"
      stateDir := env.getD "STATE_DIR" "~/.bondstake/data"
      recorder := env.getD "RECORDER" "sqlite"
      sqlitePath := env.getD "SQLITE_PATH" "~/.bondstake/history.db"
      genesisFile := env.getD "GENESIS_FILE" ""
      rebaseSchedule := env.getD "REBASE_SCHEDULE" "@every 1m" }
  let s ← get
  if !recorders.contains s.recorder then
    throw ("environment variable RECORDER must be one of none, sqlite, postgres, got: " ++ s.recorder)
  if s.genesisFile.isEmpty then
    store (required env "GENESIS_ADMIN")
      (fun s => { s with genesisAdmin := "" }) (fun v s => { s with genesisAdmin := v })
    modify fun s => { s with genesisTreasury := env.getD "GENESIS_TREASURY" s.genesisAdmin }
  if !s.rebaseSchedule.isEmpty then
    store (required env "KEEPER_ADDRESS")
      (fun s => { s with keeperAddress := "" }) (fun v s => { s with keeperAddress := v })
  modify fun s =>
    { s with
      httpListen := env.getD "HTTP_LISTEN" ":8080"
      grpcListen := env.getD "GRPC_LISTEN" ":9090" }
  if s.recorder == "postgres" then readPostgres env
  let s ← get
  store (expandHome env s.stateDir)
    (fun s => { s with stateDir := "" }) (fun v s => { s with stateDir := v })
  store (expandHome env s.sqlitePath)
    (fun s => { s with sqlitePath := "" }) (fun v s => { s with sqlitePath := v })
  store (expandHome env s.genesisFile)
    (fun s => { s with genesisFile := "" }) (fun v s => { s with genesisFile := v })

def ofEnvironment (env : Environment) : Settings × Option String :=
  let (r, s) := ((read env).run).run {}
  match r with
  | .ok () => (s, none)
  | .error e => (s, some e)

end Settings

end Bonding

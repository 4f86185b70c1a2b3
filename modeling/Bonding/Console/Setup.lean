import Bonding.Genesis.Yaml
import Bonding.Console.Reply
import Bonding.Settings
import Bonding.Log.Event

/-!
Requests about a node's setup: its settings read from an environment, the lines its logger
writes, and a genesis read from YAML text or from a file among the files a request provides. Paths are shown under `$TMP`, the
directory the files are written to.
-/

namespace Bonding

namespace Console

/-- A genesis read from the `yaml` of a request, with its check: `ok` or the fault's text. -/
def parseGenesis (j : Json) : Json :=
  match j.read "yaml" Json.text "" with
  | none => Reply.undecodable
  | some text =>
    match Genesis.ofYaml text with
    | .error _ => Reply.undecodable
    | .ok g =>
      let check := match g.validate with
        | .ok () => "ok"
        | .error f => f.message
      Reply.encoded (.obj [("genesis", g.toJson), ("validate", .str check)]) g.times

/-- A member of a request that maps names to texts: an object of texts, with none when it is
missing. -/
def textsOf (j : Json) (key : String) : Option (List (String × String)) :=
  match j.member? key with
  | none | some .null => some []
  | some (.obj ms) => ms.mapM fun (k, v) => match v with
    | .str s => some (k, s)
    | _ => none
  | some _ => none

def placeOf (name : String) : String := Path.join ["$TMP", name]

/-- The text of the file at `path` among the files of a request, each written to its place in
the working directory, or why it cannot be read: the directory itself or a directory below it
cannot be read, a path through a file is no directory, and any other path is missing. -/
def readFileAt (files : List (String × String)) (path : String) : Except String String :=
  let target := placeOf path
  match files.reverse.find? (placeOf ·.1 == target) with
  | some (_, text) => .ok text
  | none =>
    if target == "$TMP" || files.any (fun f => (placeOf f.1).startsWith (target ++ "/")) then
      .error ("read " ++ target ++ ": is a directory")
    else if files.any (fun f => target.startsWith (placeOf f.1 ++ "/")) then
      .error ("open " ++ target ++ ": not a directory")
    else .error ("open " ++ target ++ ": no such file or directory")

/-- A genesis read from the file at `path` among the files of a request. -/
def loadGenesis (j : Json) : Json :=
  match textsOf j "files", j.read "path" Json.text "" with
  | some files, some path =>
    match readFileAt files path with
    | .error e => Reply.plain ("read genesis: " ++ e)
    | .ok text =>
      match Genesis.ofYaml text with
      | .ok g => Reply.encoded g.toJson g.times
      | .error e => Reply.plain e
  | _, _ => Reply.undecodable

/-- The settings as the answer lists them. -/
def settingsJson (s : Settings) : Json :=
  .obj [("log_level", .str s.logLevel), ("log_format", .str s.logFormat),
    ("state_backend", .str s.stateBackend), ("state_dir", .str s.stateDir),
    ("recorder", .str s.recorder), ("sqlite_path", .str s.sqlitePath),
    ("genesis_file", .str s.genesisFile), ("genesis_admin", .str s.genesisAdmin),
    ("genesis_treasury", .str s.genesisTreasury), ("rebase_schedule", .str s.rebaseSchedule),
    ("keeper_address", .str s.keeperAddress), ("http_listen", .str s.httpListen),
    ("grpc_listen", .str s.grpcListen), ("postgres_host", .str s.postgresHost),
    ("postgres_port", Json.ofInt s.postgresPort), ("postgres_user", .str s.postgresUser),
    ("postgres_password", .str s.postgresPassword), ("postgres_dbname", .str s.postgresDbName),
    ("postgres_sslmode", .str s.postgresSslMode)]

/-- The settings read from the `env` of a request: all of them, or the fault and those read
before it. -/
def loadSettings (j : Json) : Json :=
  match textsOf j "env" with
  | none => Reply.undecodable
  | some bindings =>
    match Settings.ofEnvironment (Environment.ofSettable bindings) with
    | (s, none) => Reply.ok (settingsJson s)
    | (s, some e) => Reply.ok (.obj [("error", .str e), ("partial", settingsJson s)])

/-- Entries of a logging request are stamped with a fixed time and caller, so that their lines
can be compared. -/
def logStamp : Log.Stamp := ⟨Instant.ofCivil 2024 1 2 3 4 5 0, "caller.go:1"⟩

/-- An entry of a logging request; its fields are set once per name and added in name order,
and an empty component is no component. -/
def entryOf (j : Json) : Option Log.Entry := do
  let component := (← j.readOpt "component" Json.text "").filter (!·.isEmpty)
  let level ← j.read "level" Json.text ""
  let message ← j.read "msg" Json.text ""
  let fields ← textsOf j "fields"
  let once := fields.foldl (fun acc (k, v) => (acc.filter (·.1 != k)) ++ [(k, v)]) []
  let sorted := once.mergeSort (fun a b => decide (a.1 ≤ b.1))
  pure ⟨component, Log.Level.ofEntry level, message, sorted⟩

/-- The lines a logger set up with the request's level and format writes for its entries. -/
def logLines (j : Json) : Json :=
  match j.read "level" Json.text "", j.read "format" Json.text "", j.member? "entries" with
  | some level, some format, entries =>
    let items := match entries with
      | none | some .null => some []
      | some (.arr xs) => xs.mapM entryOf
      | some _ => none
    match items with
    | none => Reply.undecodable
    | some items =>
      let setting := Log.Level.ofSetting level
      let logger : Log.Logger := ⟨setting, Log.Format.ofSetting format, logStamp⟩
      Reply.ok (.obj [("global_level", .str setting.name), ("parsed_level", .str setting.name),
        ("lines", .arr ((logger.lines items).map Json.str))])
  | _, _, _ => Reply.undecodable

end Console

end Bonding

import Bonding.Node.Directory
import Bonding.Settings
import Bonding.Genesis.Yaml
import Bonding.Schedule
import Bonding.Host

/-!
What the node's two programs do in their directory, and how they exit: `1` for a fatal step, `2`
for a crash, `0` for a clean stop, and `-1` when the program has to be killed.

The daemon reads its settings, opens its state store and its history, applies a genesis to a
store that has none (from the genesis file, or the default one), and starts its servers and its
rebase keeper. Its loopback has no address, so a server bound to it never listens: the web
server then stops the daemon cleanly, while a gRPC server that cannot listen is fatal. Servers
bound to every interface do listen, and the daemon then runs until it is stopped; nothing can
reach it, so the one that started it stops it after waiting (`probed`), or kills it.

The reset tool empties a history kept in SQLite. A PostgreSQL history needs a server, and there
is none, so it always fails there.
-/

namespace Bonding.Node

/-- A program's run: it may stop early with an exit code, and keeps the directory as it is
then. -/
abbrev RunM := ExceptT Int (StateM Directory)

/-- Splits an address into its host and its service number at the last colon; a host with
colons must be in brackets. -/
def splitHostPort (address : String) : Option (String × String) :=
  match address.toList with
  | '[' :: rest =>
    match rest.dropWhile (· != ']') with
    | ']' :: ':' :: service =>
      if service.contains ']' || service.contains '[' then none
      else some (String.ofList (rest.takeWhile (· != ']')), String.ofList service)
    | _ => none
  | cs =>
    let host := (cs.reverse.dropWhile (· != ':')).reverse.dropLast
    let service := (cs.reverse.takeWhile (· != ':')).reverse
    if !cs.contains ':' || host.contains ':' || cs.contains '[' || cs.contains ']' then none
    else some (String.ofList host, String.ofList service)

/-- Whether a service number is one a server can be given: empty (any number) or a number up
to 65535. -/
def serviceAllowed (service : String) : Bool :=
  service.isEmpty || match readInt? service with
    | some p => 0 ≤ p && p ≤ 65535
    | none => false

/-- Whether a server can listen at an address here: only on every interface, since the
loopback has no address. -/
def listens (address : String) : Bool :=
  match splitHostPort address with
  | some (host, service) => (host.isEmpty || host == "0.0.0.0" || host == "::") && serviceAllowed service
  | none => false

def exitWith {α : Type} (code : Int) : RunM α := throw code

/-- The exit code of a fault that stops a program: a crash for a panic, a fatal step
otherwise. -/
def exitCodeOf : Fault → Int
  | .panic _ => 2
  | .error _ _ => 1

def genesisOf (s : Settings) : RunM Genesis := do
  if s.genesisFile.isEmpty then return Genesis.deployment s.genesisAdmin s.genesisTreasury
  match (← get).readFile? s.genesisFile with
  | none => exitWith 1
  | some text =>
    match Genesis.ofYaml text with
    | .ok g => pure g
    | .error _ => exitWith 1

/-- The daemon: its exit code, with `now` its clock and `probed` whether the one that started
it waits for it and then stops it. -/
def daemon (env : Environment) (now : Instant) (probed : Bool) : RunM Int := do
  let (s, fault) := Settings.ofEnvironment env
  if fault.isSome then exitWith 1
  let backend ← match Backend.ofName? s.stateBackend with
    | some b => pure b
    | none => exitWith 1
  let (storeAt, instantiated) ← match (← get).openStore backend s.stateDir with
    | some (segs, inst, d) => do set d; pure (segs, inst)
    | none => exitWith 1
  let historyAt ← match s.recorder with
    | "sqlite" =>
      match (← get).openHistory s.sqlitePath with
      | .ok (segs, h, d) => do set d; pure (some (segs, h))
      | .error _ => exitWith 1
    | "postgres" => exitWith 1
    | _ => pure none
  if !instantiated then
    let g ← genesisOf s
    match ({} : Chain).instantiate now g with
    | .error f => exitWith (exitCodeOf f)
    | .ok _ =>
      if let some segs := storeAt then modify fun d => d.set segs (.store backend true)
      if let some (segs, h) := historyAt then
        if let .ok (h, _) := h.recordGenesis (Chain.Genesis.prepared g) then
          modify fun d => d.set segs (.history h)
  let webListens := listens (if s.httpListen.isEmpty then ":8080" else s.httpListen)
  if !s.grpcListen.isEmpty && !listens s.grpcListen then exitWith 1
  if !s.rebaseSchedule.isEmpty then
    if let .error f := Schedule.parse s.rebaseSchedule then exitWith (exitCodeOf f)
  if !webListens then return 0
  return (if probed then 0 else -1)

/-- The reset tool: its exit code. -/
def resetTool (env : Environment) : RunM Int := do
  let var (name : String) : String := env.getD name ""
  match var "RECORDER" with
  | "" | "sqlite" =>
    let path := if (var "SQLITE_PATH").isEmpty then "~/.bondstake/history.db" else var "SQLITE_PATH"
    let path ← if path.startsWith "~/" then
        if (var "HOME").isEmpty then exitWith 1
        else pure (Path.join [var "HOME", (path.drop 2).toString])
      else pure path
    match (← get).openHistory path with
    | .ok (segs, h, d) =>
      match h.reset with
      | .ok h => do set (d.set segs (.history h)); pure 0
      | .error _ => exitWith 1
    | .error _ => exitWith 1
  | _ => exitWith 1

def RunM.exitCode (m : RunM Int) (d : Directory) : Int × Directory :=
  match (m.run).run d with
  | (.ok code, d) => (code, d)
  | (.error code, d) => (code, d)

end Bonding.Node

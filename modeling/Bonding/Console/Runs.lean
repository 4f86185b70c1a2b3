import Bonding.Console.Reply
import Bonding.Console.Setup
import Bonding.Dotenv
import Bonding.Node.Run

/-!
Requests that run the node's programs one after another in one directory, which is also their
home. Each run gets its files and its environment file written first; its environment is the
home, a search path, `NO_COLOR=1` and the variables the request gives, and the environment file
adds only variables that are not set already. Placeholders `$PORT`, `$PORT2`, … each stand
for a listening number of their own. Afterwards the history at a path may be inspected.
-/

namespace Bonding

namespace Console

/-- The listening number a placeholder stands for: one of its own for each run of digits
after `$PORT`. -/
def placeholderPort (digits : List Char) : Nat :=
  40000 + (if digits.isEmpty then 0 else (digits.foldl (fun n c => n * 10 + (c.toNat - 48)) 0 % 20000) + 1)

/-- Replaces every `$PORT` placeholder, with the digits after it, by its number. -/
def substitutePorts (s : String) : String :=
  let rec loop : (fuel : Nat) → List Char → List Char
    | 0, cs => cs
    | _, [] => []
    | fuel + 1, '$' :: 'P' :: 'O' :: 'R' :: 'T' :: rest =>
      (toString (placeholderPort (rest.takeWhile Char.isDigit))).toList ++
        loop fuel (rest.dropWhile Char.isDigit)
    | fuel + 1, c :: rest => c :: loop fuel rest
  String.ofList (loop (s.length + 1) s.toList)

/-- One run of a program, as a request gives it. -/
structure RunRequest where
  binary : String
  env : List (String × String)
  dotenv : Option String
  files : List (String × String)
  probed : Bool

def runOf (j : Json) : Option RunRequest := do
  let binary ← j.read "binary" Json.text ""
  let env ← textsOf j "env"
  let dotenv ← j.readOpt "dotenv" Json.text ""
  let files ← textsOf j "files"
  let listen ← j.readOpt "listen" Json.text ""
  let sub (p : String × String) : String × String := (p.1, substitutePorts p.2)
  pure ⟨binary, env.map sub, dotenv.map substitutePorts, files.map sub, listen.isSome⟩

def baseVariables : List (String × String) :=
  [("HOME", "$TMP"), ("PATH", "/usr/local/bin:/usr/bin:/bin"), ("NO_COLOR", "1")]

/-- The environment of a run: the base variables and the request's, then those of the
environment file that are not set yet, when the file reads. -/
def environmentOf (r : RunRequest) : Environment :=
  let env : Environment := ⟨baseVariables ++ r.env⟩
  match r.dotenv.map Dotenv.parse with
  | some (.ok vars) => ⟨env.bindings ++ vars.filter fun (k, _) => (env.get? k).isNone⟩
  | _ => env

def daemonClock : Instant := Instant.ofCivil 2024 1 1 0 0 0 0

/-- Runs one program in the directory: its answer and the directory after. -/
def runProgram (d : Node.Directory) (r : RunRequest) : Option (Json × Node.Directory) := do
  let d := r.files.foldl (fun d (name, content) => match Node.locate name with
    | some segs => d.writeFile segs content
    | none => d) d
  let d := match r.dotenv with
    | some text => d.writeFile [".env"] text
    | none => d.erase [".env"]
  let env := environmentOf r
  let program ← match r.binary with
    | "bondd" => some (Node.daemon env daemonClock r.probed)
    | "reset_db" => some (Node.resetTool env)
    | _ => none
  let (code, d) := program.exitCode d
  let answer := [("exit_code", Json.ofInt code), ("ready", .bool false)] ++
    (if r.probed then [("responses", .arr [])] else [])
  pure (.obj answer, d)

/-- Runs the programs of a request in order and inspects a history afterwards. -/
def runPrograms (j : Json) : Json :=
  let runs := match j.member? "runs" with
    | none | some .null => some []
    | some (.arr xs) => xs.mapM runOf
    | some _ => none
  match runs, j.readOpt "inspect" Json.text "" with
  | some runs, some inspect =>
    let step (acc : Option (List Json × Node.Directory)) (r : RunRequest) :=
      acc.bind fun (answers, d) => (runProgram d r).map fun (a, d) => (answers ++ [a], d)
    match runs.foldl step (some ([], Node.Directory.empty)) with
    | none => Reply.undecodable
    | some (answers, d) =>
      let inspected := inspect.map fun path =>
        match d.openHistory ("$TMP/" ++ path) with
        | .ok (_, h, _) =>
          match h.summary with
          | .ok s => s.toJson
          | .error e => .obj [("error", .str e)]
        | .error e => .obj [("error", .str e)]
      Reply.ok (.obj ((match inspected with
        | some i => [("inspect", i)]
        | none => []) ++ [("runs", .arr answers)]))
  | _, _ => Reply.undecodable

end Console

end Bonding

import Bonding.Console.Run
import Bonding.Json.Parse
import Bonding.Json.Print

/-!
The command line: one JSON request per line on standard input, one JSON answer per line on
standard output, flushed after each line.
-/

open Bonding

def answerLine (line : String) : String :=
  match Json.parse line with
  | some j => Json.render (Console.handle j)
  | none => Json.render Reply.undecodable

partial def serve (stdin stdout : IO.FS.Stream) : IO Unit := do
  let line ← stdin.getLine
  if line.isEmpty then return
  let text := (line.dropEndWhile (fun c => c == (Char.ofNat 10) || c == (Char.ofNat 13))).toString
  stdout.putStrLn (answerLine text)
  stdout.flush
  serve stdin stdout

def main : IO Unit := do
  serve (← IO.getStdin) (← IO.getStdout)

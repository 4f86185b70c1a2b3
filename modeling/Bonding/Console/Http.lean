import Bonding.Web.Api
import Bonding.Web.RequestLine
import Bonding.Console.Reply
import Bonding.Text.Utf8

/-!
The `http` step: one request through the API of the session, answered as
`{"status", "content_type", "allow_origin"?, "allow_methods"?, "body" | "text"}`. A JSON document
is given as a document in the form a reader of doubles sees it: every number is the nearest
double, and the members that change from run to run of a server (`timestamp`, `trace_id`,
`system`, `duration_ms`) are left out at every depth. Any other body is given as its non-empty
lines, without the bucket and sum lines of the call-duration histogram; a byte of a body that
starts no UTF-8 character is read as U+FFFD.
-/

namespace Bonding

namespace Console

def volatileMembers : List String := ["timestamp", "trace_id", "system", "duration_ms"]

mutual

def steady : Json → Json
  | .num t => match Binary64.ofDecimalText? t with
    | some x => .num x.toJsonText
    | none => .num t
  | .arr xs => .arr (steadyItems xs)
  | .obj ms => .obj (steadyMembers ms)
  | j => j

def steadyItems : List Json → List Json
  | [] => []
  | x :: xs => steady x :: steadyItems xs

def steadyMembers : List (String × Json) → List (String × Json)
  | [] => []
  | (k, v) :: ms =>
    if volatileMembers.contains k then steadyMembers ms else (k, steady v) :: steadyMembers ms

end

def keptLine (line : String) : Bool :=
  !line.isEmpty && !line.startsWith "bondstake_call_duration_seconds_bucket" &&
    !line.startsWith "bondstake_call_duration_seconds_sum"

def byteLines : List UInt8 → List (List UInt8)
  | [] => [[]]
  | b :: bs =>
    match byteLines bs with
    | l :: rest => if b == 10 then [] :: l :: rest else (b :: l) :: rest
    | [] => [[b]]

def lineText (l : List UInt8) : String := String.ofList (Utf8.decodeLossy (l.map UInt8.toNat))

/-- The answer of a response. -/
def responseJson (r : Web.Response) : Json :=
  let content := match r.payload with
    | .document j => ("body", steady j)
    | .text t => ("text", .arr ((t.splitOn "\n").filter keptLine |>.map Json.str))
    | .bytes bs => ("text", .arr (((byteLines bs).map lineText).filter keptLine |>.map Json.str))
    | .empty => ("text", .arr [])
  Json.objOpt [("status", some (.ofNat r.status)), ("content_type", some (.str r.contentType)),
    ("allow_origin", r.allowOrigin.map Json.str), ("allow_methods", r.allowMethods.map Json.str),
    (content.1, some content.2)]

def headersOf (j : Json) : Option (List (String × String)) :=
  match j.member? "headers" with
  | none | some .null => some []
  | some (.obj ms) => ms.mapM fun (k, v) => match v with
    | .str s => some (k, s)
    | _ => none
  | some _ => none

/-- Runs an `http` step `{"method", "path", "body"?, "headers"?}`. -/
def httpStep (s : Session) (j : Json) : Session × Json :=
  match j.read "method" Json.text "", j.read "path" Json.text "", j.read "body" Json.text "", headersOf j with
  | some method, some path, some body, some headers =>
    match Web.RequestLine.read method path with
    | .error e => (s, Reply.failure (.panic ("invalid NewRequest arguments; " ++ e.message)))
    | .ok head =>
      let headers := headers.foldl (fun h (k, v) => h.set k v) head.headers
      let (s, r) := s.serve ⟨head.method, head.target, headers, body⟩
      (s, match r with
        | .ok r => Reply.ok (responseJson r)
        | .error f => Reply.failure f)
  | _, _, _, _ => (s, Reply.undecodable)

end Console

end Bonding

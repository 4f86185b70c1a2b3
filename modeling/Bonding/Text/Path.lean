/-!
Slash-separated file paths and their clean form: the shortest path naming the same file by
purely lexical steps. Runs of slashes become one, `.` segments are dropped, a `..` takes the
segment before it away (at the root it is dropped, in a relative path with nothing left to take
it is kept), and an empty result is `.`.
-/

namespace Bonding.Path

/-- The segments of a path once `.`, empty segments and cancelling `..` are removed, last
segment first. -/
def cleanSegments (rooted : Bool) (segments : List String) : List String :=
  segments.foldl (fun kept s =>
    if s.isEmpty || s == "." then kept
    else if s == ".." then
      match kept with
      | k :: rest => if k == ".." then ".." :: kept else rest
      | [] => if rooted then [] else [".."]
    else s :: kept) []

def clean (p : String) : String :=
  let rooted := p.startsWith "/"
  let body := "/".intercalate (cleanSegments rooted (p.splitOn "/")).reverse
  if rooted then "/" ++ body
  else if body.isEmpty then "."
  else body

/-- Joins path parts with slashes and cleans the result; empty parts are skipped, and no part
at all gives the empty path. -/
def join (parts : List String) : String :=
  match parts.dropWhile String.isEmpty with
  | [] => ""
  | rest => clean ("/".intercalate rest)

end Bonding.Path

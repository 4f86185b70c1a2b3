import Bonding.History
import Bonding.Store
import Bonding.Text.Path

/-!
The directory a node runs in, which is also its home: the files written into it, the SQLite
histories and the state stores created in it, and the directories made for them. Paths are
named from the directory as `$TMP/...`, or relative to it; it is the only place that can be
written, so an absolute path elsewhere names nothing that can be created.

* An SQLite history opens when its directory exists: a missing file is created, an empty one
  becomes a history, and a directory or a file of other content does not open.
* A state store lives in a directory `<dir>/bondstake.db`, made with its parents unless a file
  stands in the way, and keeps whether a genesis was applied to it.
-/

namespace Bonding.Node

/-- What a path of the directory holds. -/
inductive Entry where
  | directory
  | file (content : String)
  | history (h : History)
  | store (backend : Backend) (instantiated : Bool)
  deriving Inhabited

def Entry.isDirectory : Entry → Bool
  | .directory | .store _ _ => true
  | _ => false

def locate (path : String) : Option (List String) :=
  let inside := if path == "$TMP" then some ""
    else if path.startsWith "$TMP/" then some (path.drop 5).toString
    else if path.startsWith "/" then none
    else some path
  inside.map fun p => ((Path.clean ("/" ++ p)).splitOn "/").filter (!·.isEmpty)

/-- The directory: entries by their segments. -/
structure Directory where
  entries : List (List String × Entry)
  deriving Inhabited

namespace Directory

def empty : Directory := ⟨[]⟩

def get? (d : Directory) (segs : List String) : Option Entry :=
  if segs.isEmpty then some .directory else (d.entries.find? (·.1 == segs)).map (·.2)

def set (d : Directory) (segs : List String) (e : Entry) : Directory :=
  ⟨(d.entries.filter (·.1 != segs)) ++ [(segs, e)]⟩

def erase (d : Directory) (segs : List String) : Directory :=
  ⟨d.entries.filter (·.1 != segs)⟩

def makeDirs (d : Directory) (segs : List String) : Option Directory :=
  (List.range segs.length).foldl (fun acc n => acc.bind fun d =>
    let front := segs.take (n + 1)
    match d.get? front with
    | none => some (d.set front .directory)
    | some e => if e.isDirectory then some d else none) (some d)

def writeFile (d : Directory) (segs : List String) (content : String) : Directory :=
  match d.makeDirs segs.dropLast with
  | none => d
  | some d =>
    match d.get? segs with
    | some e => if e.isDirectory then d else d.set segs (.file content)
    | none => d.set segs (.file content)

def readFile? (d : Directory) (path : String) : Option String := do
  let segs ← locate path
  match d.get? segs with
  | some (.file content) => some content
  | _ => none

def cannotOpen : String := "set WAL mode: unable to open database file: out of memory (14)"

def notADatabase : String := "set WAL mode: file is not a database (26)"

/-- Opens the SQLite history at a path, creating it when it is missing: its segments, its
history and the directory after. -/
def openHistory (d : Directory) (path : String) : Except String (List String × History × Directory) :=
  match locate path with
  | none => .error cannotOpen
  | some segs =>
    if segs.isEmpty then .error cannotOpen else
    match d.get? segs.dropLast with
    | some e =>
      if !e.isDirectory then .error cannotOpen else
      match d.get? segs with
      | none => .ok (segs, {}, d.set segs (.history {}))
      | some (.history h) => .ok (segs, h, d)
      | some (.file "") => .ok (segs, {}, d.set segs (.history {}))
      | some (.file _) => .error notADatabase
      | some _ => .error cannotOpen
    | none => .error cannotOpen

/-- Opens the state store of a backend under a directory: its segments, whether a genesis was
applied to it, and the directory after. A store in memory lives only while it is open. -/
def openStore (d : Directory) (backend : Backend) (dir : String) :
    Option (Option (List String) × Bool × Directory) :=
  if backend == .memdb then some (none, false, d) else do
  let segs ← locate (Path.join [dir, "bondstake.db"])
  let d ← d.makeDirs segs.dropLast
  match d.get? segs with
  | some (.store _ instantiated) => some (some segs, instantiated, d)
  | some .directory => some (some segs, false, d.set segs (.store backend false))
  | none => some (some segs, false, d.set segs (.store backend false))
  | some _ => none

end Directory

end Bonding.Node

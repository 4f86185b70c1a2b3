/-!
The key-value store that holds contract state. A store is opened by the name of its backend,
and only the known backends open. Writes are staged in a transaction: what the transaction reads is
the store with its writes over it, and they reach the store when it commits, as one batch written
at once, or not at all when the write fails. A transaction finishes once, by its first commit or
discard, and committing it again fails. Closing a store twice is harmless.
-/

namespace Bonding

/-- The backends a store can be opened with. -/
inductive Backend where
  | goleveldb
  | memdb
  | pebbledb
  deriving DecidableEq, Repr

namespace Backend

def all : List Backend := [goleveldb, memdb, pebbledb]

def name : Backend → String
  | goleveldb => "goleveldb"
  | memdb => "memdb"
  | pebbledb => "pebbledb"

def ofName? (s : String) : Option Backend := all.find? (·.name == s)

/-- Why a store with an unknown backend does not open, for the database `db` in the directory
`dir`. -/
def unknownMessage (backend db dir : String) : String :=
  "failed to open " ++ backend ++ " database " ++ "\"" ++ db ++ "\" in \"" ++ dir ++
    "\": unknown db_backend " ++ backend ++ ", expected one of " ++ ",".intercalate (all.map name)

end Backend

/-- An open store: its entries and whether it is closed. -/
structure Store where
  backend : Backend
  entries : List (String × String)
  closed : Bool

/-- Writes staged against a store, in order, and whether the transaction has finished. -/
structure Transaction (ε : Type) where
  staged : List ε
  done : Bool

namespace Store

def empty (backend : Backend) : Store := ⟨backend, [], false⟩

def get? (s : Store) (key : String) : Option String :=
  (s.entries.find? (·.1 == key)).map (·.2)

def put (s : Store) (key value : String) : Store :=
  { s with entries := (key, value) :: s.entries.filter (·.1 != key) }

def close (s : Store) : Except String Store := .ok { s with closed := true }

def write (s : Store) (e : String × String) : Store := s.put e.1 e.2

end Store

namespace Transaction

variable {ε σ : Type}

def begin : Transaction ε := ⟨[], false⟩

def put (t : Transaction ε) (e : ε) : Transaction ε :=
  { t with staged := t.staged ++ [e] }

def view (t : Transaction ε) (write : σ → ε → σ) (s : σ) : σ := t.staged.foldl write s

/-- Commits the staged writes to the store `s`, whose next write of a batch fails with `fault`
when that is set. A finished transaction refuses; otherwise it finishes and its writes go to the
store as one batch, written at once or, when the write fails, not at all. Gives the store after
the write. -/
def commit (t : Transaction ε) (write : σ → ε → σ) (s : σ) (fault : Option String) :
    Transaction ε × Except String σ :=
  if t.done then (t, .error "transaction already finished")
  else match fault with
    | some e => ({ t with done := true }, .error ("failed to write batch: " ++ e))
    | none => ({ t with done := true }, .ok (t.view write s))

def discard (t : Transaction ε) : Transaction ε := { t with done := true }

end Transaction

end Bonding

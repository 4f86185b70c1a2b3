import Bonding.Log.Level
import Bonding.Text.Case
import Bonding.Text.Quoted
import Bonding.Time.Rfc3339

/-!
Log entries and the two ways a node writes them. An entry is a list of named texts in the order
they were added: the level, the logger's context (such as its component), the entry's own
fields, the time, the caller, and the message when there is one.

* A JSON line writes the members in that order, every one of them, as one object.
* A console line is read off the entry's members by name, the later of two equal names
  winning: the time, the level's coloured label, the caller, the message (bold at `info` and
  above), then the other members sorted by name with `error` first, each as `name=value`, the
  value quoted when it holds a blank, a quote, a backslash or a character outside printable
  ASCII. When there is an `error` member, members with an empty name are left out.

The lines a logger writes are its output cut at line breaks, empty lines left out.
-/

namespace Bonding.Log

/-- A log entry: named texts in the order they were added. -/
structure Event where
  members : List (String × String)

/-- What a node adds to every entry it writes: the time and the place in the code. -/
structure Stamp where
  time : Instant
  caller : String

namespace Event

def make (stamp : Stamp) (level : Level) (context fields : List (String × String))
    (message : String) : Event :=
  ⟨[("level", level.name)] ++ context ++ fields ++
    [("time", stamp.time.rfc3339), ("caller", stamp.caller)] ++
    (if message.isEmpty then [] else [("message", message)])⟩

def get? (e : Event) (name : String) : Option String :=
  (e.members.reverse.find? (·.1 == name)).map (·.2)

def hex2 (n : Nat) : String :=
  let d (k : Nat) : Char := "0123456789abcdef".toList.getD (k % 16) '0'
  String.ofList [d (n / 16), d n]

/-- One character of a JSON line's string: quotes, backslashes, control characters and delete
are escaped, with a short escape where JSON has one. -/
def escapeChar (c : Char) : String :=
  if c == '"' then "\\\""
  else if c == '\\' then "\\\\"
  else if c == '\n' then "\\n"
  else if c == '\r' then "\\r"
  else if c == '\t' then "\\t"
  else if c.toNat == 8 then "\\b"
  else if c.toNat == 12 then "\\f"
  else if c.toNat < 0x20 || c.toNat == 0x7F then "\\u00" ++ hex2 c.toNat
  else c.toString

def quote (s : String) : String :=
  "\"" ++ String.join (s.toList.map escapeChar) ++ "\""

def jsonLine (e : Event) : String :=
  "\x7b" ++ ",".intercalate (e.members.map fun (k, v) => quote k ++ ":" ++ quote v) ++ "\x7d"

def colorize (code : Nat) (s : String) : String :=
  if code == 0 then s else "\x1b[" ++ toString code ++ "m" ++ s ++ "\x1b[0m"

def needsQuotes (s : String) : Bool :=
  s.any fun c => c.toNat < 0x21 || c.toNat > 0x7E || c == '\\' || c == '"'

/-- The time of a console line: the stamp's date and time of day, or its text as it is when it
is not a time. -/
def timePart (e : Event) : String :=
  colorize 90 (match e.get? "time" with
    | some t => ((Instant.parse? t).map Instant.spaced).getD t
    | none => "<nil>")

/-- The level label of a console line. A text that names no level shows its first three bytes
in upper case, a character cut in two read as replacement characters; the empty text shows
`???`. -/
def levelPart (e : Event) : String :=
  match e.get? "level" with
  | some "" | none => "???"
  | some t =>
    match Level.ofText? t with
    | some l => colorize l.color l.label
    | none =>
      Text.upperText (String.ofList (Utf8.decodeLossy ((t.toUTF8.toList.take 3).map UInt8.toNat)))

def callerPart (e : Event) : String :=
  match e.get? "caller" with
  | none | some "" => ""
  | some c => colorize 1 c ++ colorize 36 " >"

def messagePart (e : Event) : String :=
  match e.get? "message" with
  | none | some "" => ""
  | some m =>
    if ["info", "warn", "error", "fatal", "panic"].contains ((e.get? "level").getD "") then colorize 1 m
    else m

/-- The names of the members shown as fields on a console line: each once, sorted, with
`error` first and, when it is there, no empty name. -/
def fieldNames (e : Event) : List String :=
  let names := (e.members.map (·.1)).eraseDups.filter
    fun k => !(["level", "time", "message", "caller"].contains k)
  let sorted := names.mergeSort (fun a b => decide (a ≤ b))
  if sorted.contains "error" then "error" :: (sorted.erase "error").filter (!·.isEmpty) else sorted

def field (e : Event) (name : String) : String :=
  let v := (e.get? name).getD ""
  let v := if needsQuotes v then quoteLiteral v else v
  colorize 36 (name ++ "=") ++ (if name == "error" then colorize 31 (colorize 1 v) else v)

def consoleLine (e : Event) : String :=
  let parts := [e.timePart, e.levelPart, e.callerPart, e.messagePart] ++
    (match e.fieldNames with
      | [] => []
      | names => [" ".intercalate (names.map e.field)])
  " ".intercalate (parts.filter (!·.isEmpty))

end Event

/-- How a node writes its entries. -/
inductive Format where
  | json
  | console
  deriving DecidableEq

def Format.ofSetting (s : String) : Format :=
  if s.toLower == "json" then .json else .console

/-- An entry to log: its level, message and fields, and the component that logs it, if any. -/
structure Entry where
  component : Option String
  level : Level
  message : String
  fields : List (String × String)

/-- A node's logger: the least level it writes, its format and what it stamps entries with. -/
structure Logger where
  level : Level
  format : Format
  stamp : Stamp

namespace Logger

/-- The line an entry is written as, if the logger's level admits it. -/
def line? (l : Logger) (e : Entry) : Option String :=
  if !l.level.admits e.level then none else
  let context := match e.component with
    | some c => [("component", c)]
    | none => []
  let event := Event.make l.stamp e.level context e.fields e.message
  some (match l.format with
    | .json => event.jsonLine
    | .console => event.consoleLine)

/-- The lines a logger writes for entries: the text of those it admits, one after another and
each ended by a line break, cut at the line breaks, without the empty lines. -/
def lines (l : Logger) (entries : List Entry) : List String :=
  (("\n".intercalate (entries.filterMap l.line?)).splitOn "\n").filter (!·.isEmpty)

end Logger

end Bonding.Log

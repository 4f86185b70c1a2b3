import Bonding.Text.Integer
import Bonding.Text.Path
import Bonding.Text.Quoted

/-!
Connecting to a PostgreSQL server for the history of calls. The settings are written into a
connection string of `key=value` words, which is then read back by the rules of such strings:
blanks separate words, blanks after `=` are skipped (so an empty value takes the next word as its
value), a backslash takes the next character as it is, and single quotes hold a value with
blanks. A host that starts with `/` is a directory holding the server's socket file; any other
host is reached over TCP.

No server can be reached from here: a socket file does not exist, a TCP address is on a network
that reaches nothing, and a host name that is not an address is not found. So an attempt always
fails, and the point is which failure it is.
-/

namespace Bonding.Postgres

/-- The settings of a connection. -/
structure Config where
  host : String
  portNumber : Int
  user : String
  password : String
  dbName : String
  sslMode : String

def Config.connInfo (c : Config) : String :=
  "host=" ++ c.host ++ " port=" ++ toString c.portNumber ++ " user=" ++ c.user ++ " password=" ++
    c.password ++ " dbname=" ++ c.dbName ++ " sslmode=" ++ c.sslMode

def isSpace (c : Char) : Bool :=
  c == ' ' || ('\t' ≤ c && c ≤ '\r') || c.toNat == 0x85 || c.toNat == 0xA0 || c.toNat == 0x1680 ||
    (0x2000 ≤ c.toNat && c.toNat ≤ 0x200A) || c.toNat == 0x2028 || c.toNat == 0x2029 ||
    c.toNat == 0x202F || c.toNat == 0x205F || c.toNat == 0x3000

abbrev Options := List (String × String)

def Options.get? (o : Options) (key : String) : Option String :=
  (o.reverse.find? (·.1 == key)).map (·.2)

/-- Reads a plain value up to the next blank; a backslash takes the next character as it is. -/
def plainValue : List Char → List Char → Except String (List Char × List Char)
  | [], acc => .ok (acc.reverse, [])
  | c :: rest, acc =>
    if isSpace c then .ok (acc.reverse, rest)
    else if c == '\\' then
      match rest with
      | [] => .error "missing character after backslash"
      | d :: rest => plainValue rest (d :: acc)
    else plainValue rest (c :: acc)

/-- Reads a quoted value after its opening quote, up to the closing one; a backslash takes the
next character as it is. -/
def quotedValue : List Char → List Char → Except String (List Char × List Char)
  | [], _ => .error "unterminated quoted string literal in connection string"
  | c :: rest, acc =>
    if c == '\'' then .ok (acc.reverse, rest)
    else if c == '\\' then
      match rest with
      | [] => .error "unterminated quoted string literal in connection string"
      | d :: rest => quotedValue rest (d :: acc)
    else quotedValue rest (c :: acc)

/-- Reads the words of a connection string into options, after the options already there. -/
def readWords (o : Options) : (fuel : Nat) → List Char → Except String Options
  | 0, _ => .ok o
  | fuel + 1, cs =>
    match cs.dropWhile isSpace with
    | [] => .ok o
    | cs =>
      let key := cs.takeWhile fun c => !isSpace c && c != '='
      let rest := cs.dropWhile fun c => !isSpace c && c != '='
      let keyText := String.ofList key
      match rest.dropWhile isSpace with
      | '=' :: rest =>
        match rest.dropWhile isSpace with
        | [] => .ok (o ++ [(keyText, "")])
        | '\'' :: rest => do
          let (v, rest) ← quotedValue rest []
          readWords (o ++ [(keyText, String.ofList v)]) fuel rest
        | rest => do
          let (v, rest) ← plainValue rest []
          readWords (o ++ [(keyText, String.ofList v)]) fuel rest
      | _ => .error ("missing \"=\" after " ++ quoteLiteral keyText ++ " in connection info string\"")

/-- The options of a connection string, over the defaults: the local host, and 5432 for the
server's number. -/
def Options.ofConnInfo (s : String) : Except String Options :=
  readWords [("host", "localhost"), ("port", "5432")] (s.length + 1) s.toList

def isUtf8 (name : String) : Bool :=
  let s := String.ofList ((name.toList.filter Char.isAlphanum).map Char.toLower)
  s == "utf8" || s == "unicode"

def Options.check (o : Options) : Except String Unit := do
  if let some e := o.get? "client_encoding" then
    if !isUtf8 e then throw "client_encoding must be absent or 'UTF8'"
  if let some d := o.get? "datestyle" then
    if d != "ISO, MDY" then throw ("setting datestyle must be absent or ISO, MDY; got " ++ d)
  for key in ["disable_prepared_binary_result", "binary_parameters"] do
    if let some v := o.get? key then
      if v != "yes" && v != "no" then throw ("unrecognized value " ++ quoteLiteral v ++ " for " ++ key)

def isIPv4 (s : String) : Bool :=
  let parts := s.splitOn "."
  parts.length == 4 && parts.all fun p =>
    !p.isEmpty && p.length ≤ 3 && p.all Char.isDigit && (p == "0" || !p.startsWith "0") &&
      p.toNat! < 256

def isIPv6 (s : String) : Bool :=
  s.contains ':' && s.all fun c => c.isDigit || ('a' ≤ c.toLower && c.toLower ≤ 'f') || c == ':' || c == '.'

/-- A host and a service number joined as an address, with brackets around a host that holds
a colon. -/
def joinHostPort (host service : String) : String :=
  if host.contains ':' then "[" ++ host ++ "]:" ++ service else host ++ ":" ++ service

/-- The failure of connecting over TCP to a host and a service number. -/
def tcpFailure (host service : String) : String :=
  match readInt? service with
  | none => "dial tcp: lookup tcp/" ++ service ++ ": unknown port"
  | some p =>
    if p < 0 || p > 65535 then "dial tcp: address " ++ service ++ ": invalid port" else
    let address := if host == "localhost" then some "127.0.0.1"
      else if host.isEmpty || isIPv4 host || isIPv6 host then some host
      else none
    match address with
    | some a => "dial tcp " ++ joinHostPort a (toString p) ++ ": connect: network is unreachable"
    | none => "dial tcp: lookup " ++ host ++ ": no such host"

/-- The failure of reaching a server at a host and a service number: the socket file in a
directory, or over TCP. -/
def dialFailure (host service : String) : String :=
  if host.startsWith "/" then
    "dial unix " ++ Path.join [host, ".s.PGSQL." ++ service] ++ ": connect: no such file or directory"
  else tcpFailure host service

/-- Why connecting with a connection string fails. -/
def failure (connInfo : String) : String :=
  match Options.ofConnInfo connInfo with
  | .error e => e
  | .ok o =>
    match o.check with
    | .error e => e
    | .ok () =>
      let host := (o.get? "host").getD ""
      let service := (o.get? "port").getD ""
      let timeout := (o.get? "connect_timeout").filter (· != "0")
      match timeout.map fun t => (t, readInt? t) with
      | some (t, none) =>
        "invalid value for parameter connect_timeout: strconv.ParseInt: parsing " ++ quoteLiteral t ++
          ": invalid syntax"
      | some (t, some n) =>
        if !fitsInt64 n then
          "invalid value for parameter connect_timeout: strconv.ParseInt: parsing " ++ quoteLiteral t ++
            ": value out of range"
        else dialFailure host service
      | none => dialFailure host service

def Config.pingFailure (c : Config) : String :=
  "database ping failed: " ++ failure c.connInfo

end Bonding.Postgres

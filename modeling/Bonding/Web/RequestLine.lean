import Bonding.Web.Target
import Bonding.Web.Address
import Bonding.Web.Headers
import Bonding.Text.Quoted

/-!
Request lines: a method and a target written as `METHOD TARGET HTTP/1.0` and read back as a
server reads the first line of a request. The line ends at the first line feed, a carriage return
right before it dropped. It splits at its first two spaces into the method, the request URI and
the version. The method must be a token and the version `HTTP/x.y`. The URI must be `*`, an
absolute path, or an absolute URL. It holds no control character, every `%` in it is followed by
two hexadecimal digits, and the authority of an absolute URL has a numeric port and only the
characters a host name may have. A host in brackets must be an IP address other than IPv4.

The text after the first line is a block of header lines, up to the first blank line. The first
must not start with a space or a tab. Each header line holds a colon, and a line starting with
a space or a tab continues the line before, joined to it by one space. The name before the first
colon is a token, or a token with spaces, which is kept as it is. The value after it holds no
control character but the tab, and is read without its leading blanks. At most one `Host` header
may come, and the `Content-Length` headers must agree and be a number below 2^63.

Reading fails with the first fault in that order. What it gives is the method, the path with its
escapes read, the raw query, and the headers.
-/

namespace Bonding.Web

/-- Why a request line cannot be read. -/
inductive LineFault where
  /-- the line has fewer than two spaces -/
  | malformedRequest (line : String)
  /-- the method is empty or holds a character that is no token character -/
  | invalidMethod (method : String)
  /-- the version is not `HTTP/x.y` -/
  | malformedVersion (version : String)
  /-- the request URI is not a URL a request may name -/
  | badUrl (url reason : String)
  /-- the first header line starts with a blank -/
  | headerInitialLine (line : String)
  /-- a first header line that starts with a blank is too long to show -/
  | messageTooLarge
  /-- a header line has no colon -/
  | missingColon (line : String)
  /-- a header has a bad name or value -/
  | malformedHeader (line : String)
  /-- more than one `Host` header -/
  | tooManyHosts
  /-- `Content-Length` headers that disagree -/
  | multipleLengths (values : List String)
  /-- an empty `Content-Length` -/
  | emptyLength
  /-- a `Content-Length` that is not a number below 2^63 -/
  | badLength (value : String)
  deriving Repr, DecidableEq

/-- The message of a fault. -/
def LineFault.message : LineFault → String
  | .malformedRequest l => "malformed HTTP request " ++ quoteLiteral l
  | .invalidMethod m => "invalid method " ++ quoteLiteral m
  | .malformedVersion v => "malformed HTTP version " ++ quoteLiteral v
  | .badUrl u r => "parse " ++ quoteLiteral u ++ ": " ++ r
  | .headerInitialLine l => "malformed MIME header initial line: " ++ quoteLiteral l
  | .messageTooLarge => "message too large"
  | .missingColon l => "malformed MIME header: missing colon: " ++ quoteLiteral l
  | .malformedHeader l => "malformed MIME header line: " ++ quoteLiteral l
  | .tooManyHosts => "too many Host headers"
  | .multipleLengths vs =>
    "http: message cannot contain multiple Content-Length headers; got [" ++
      " ".intercalate (vs.map quoteLiteral) ++ "]"
  | .emptyLength => "invalid empty Content-Length " ++ quoteLiteral ""
  | .badLength v => "bad Content-Length " ++ quoteLiteral v

/-- A request as its text gives it: its method, its path with escapes read, its raw query and
its headers. -/
structure RequestHead where
  method : String
  target : Target
  headers : Headers
  deriving Repr, Inhabited

namespace RequestLine

def isVersion (v : String) : Bool :=
  match v.toList with
  | ['H', 'T', 'T', 'P', '/', a, '.', b] => a.isDigit && b.isDigit
  | _ => false

def cut (s : String) (c : Char) : Option (String × String) :=
  match s.splitOn (String.singleton c) with
  | first :: rest@(_ :: _) => some (first, (String.singleton c).intercalate rest)
  | _ => none

def lines (s : String) : List String :=
  (s.splitOn "\n").map fun l => if l.endsWith "\r" then (l.dropEnd 1).toString else l

def isControl (c : Char) : Bool := c.toNat < 0x20 || c.toNat == 0x7F

/-- The ways text is escaped in the parts of a URL. -/
inductive Part where
  | path
  | host
  | zone
  | userinfo
  deriving DecidableEq

def hostNeedsEscape (c : Char) : Bool :=
  !(c.isAlphanum || "-_.~!$&'()*+,;=:[]<>\"".toList.contains c)

def badEscape (cs : List Char) : String :=
  "invalid URL escape " ++ quoteByteLiteral (((String.ofList cs).toUTF8.toList.take 3).map UInt8.toNat)

/-- Checks the escapes of a part of a URL, and in a host name its characters. -/
def checkEscapes (part : Part) : List Char → Except String Unit
  | [] => .ok ()
  | '%' :: a :: b :: rest =>
    match hexValue? a, hexValue? b with
    | some x, some y =>
      let v := x * 16 + y
      let percent := a == '2' && b == '5'
      if part == .host && x < 8 && !percent then .error (badEscape ('%' :: a :: b :: rest))
      else if part == .zone && !percent && v != 32 && v < 0x80 && hostNeedsEscape (Char.ofNat v) then
        .error (badEscape ('%' :: a :: b :: rest))
      else checkEscapes part rest
    | _, _ => .error (badEscape ('%' :: a :: b :: rest))
  | '%' :: rest => .error (badEscape ('%' :: rest))
  | c :: rest =>
    if (part == .host || part == .zone) && c.toNat < 0x80 && hostNeedsEscape c then
      .error ("invalid character " ++ quoteLiteral (String.singleton c) ++ " in host name")
    else checkEscapes part rest

def validPort (p : String) : Bool :=
  match p.toList with
  | [] => true
  | ':' :: ds => ds.all Char.isDigit
  | _ => false

def lastIndex? (s : String) (c : Char) : Option Nat :=
  let cs := s.toList
  (cs.length - 1 - ·) <$> cs.reverse.findIdx? (· == c)

def unescapePart (part : Part) (cs : List Char) : Except String (List Nat) := do
  checkEscapes part cs
  return (unescapeBytes false cs).getD []

/-- Checks a host with its port. A host starting with a bracket is an IP literal: the address in
the brackets, its escapes read, with a zone after `%25`, must be an IP address other than
IPv4. A bracket elsewhere is refused. -/
def checkHost (host : String) : Except String Unit := do
  let cs := host.toList
  match lastIndex? host '[' with
  | some 0 =>
    match lastIndex? host ']' with
    | none => throw "missing ']' in host"
    | some i =>
      let colonPort := String.ofList (cs.drop (i + 1))
      if !validPort colonPort then throw ("invalid port " ++ quoteLiteral colonPort ++ " after host")
      let name := (cs.take i).drop 1
      let bytes ← match (String.ofList name).splitOn "%25" with
        | first :: rest@(_ :: _) => do
          let address ← unescapePart .host first.toList
          let zone ← unescapePart .zone ("%25" ++ "%25".intercalate rest).toList
          pure (address ++ zone)
        | _ => unescapePart .host name
      match IpAddress.read bytes with
      | .error e => throw ("invalid host: " ++ e.message)
      | .ok a => if a.isV4 then throw "invalid IP-literal"
  | some _ => throw "invalid IP-literal"
  | none =>
    if let some i := lastIndex? host ':' then
      let colonPort := String.ofList (cs.drop i)
      if !validPort colonPort then throw ("invalid port " ++ quoteLiteral colonPort ++ " after host")
    checkEscapes .host cs

def validUserinfo (u : String) : Bool :=
  u.toList.all fun c => c.isAlphanum || "-._:~!$&'()*+,;=%@".toList.contains c

/-- Checks an authority: the host after the last `@`, then the user information before it. -/
def checkAuthority (authority : String) : Except String Unit := do
  match lastIndex? authority '@' with
  | none => checkHost authority
  | some i =>
    let cs := authority.toList
    checkHost (String.ofList (cs.drop (i + 1)))
    let user := String.ofList (cs.take i)
    if !validUserinfo user then throw "net/url: invalid userinfo"
    match cut user ':' with
    | none => checkEscapes .userinfo user.toList
    | some (name, password) =>
      checkEscapes .userinfo name.toList
      checkEscapes .userinfo password.toList

/-- The scheme of a URL and what follows its colon; a text with no scheme is returned whole. -/
def splitScheme (url : String) : Except String (String × String) :=
  let rec loop : List Char → List Char → Except String (String × String)
    | [], _ => .ok ("", url)
    | c :: rest, seen =>
      if c.isAlpha then loop rest (c :: seen)
      else if c.isDigit || c == '+' || c == '-' || c == '.' then
        if seen.isEmpty then .ok ("", url) else loop rest (c :: seen)
      else if c == ':' then
        if seen.isEmpty then .error "missing protocol scheme"
        else .ok (String.ofList seen.reverse, String.ofList rest)
      else .ok ("", url)
  loop url.toList []

/-- Reads a request URI into a target. -/
def readUri (url : String) : Except String Target := do
  if url.toList.any isControl then throw "net/url: invalid control character in URL"
  if url.isEmpty then throw "empty url"
  if url == "*" then return ⟨[42], ""⟩
  let (scheme, rest) ← splitScheme url
  let (rest, query) :=
    if rest.endsWith "?" && (rest.toList.filter (· == '?')).length == 1 then ((rest.dropEnd 1).toString, "")
    else (cut rest '?').getD (rest, "")
  if !rest.startsWith "/" then
    if scheme.isEmpty then throw "invalid URI for request"
    return ⟨[], query⟩
  let rest ← if !scheme.isEmpty && rest.startsWith "//" then
      let afterSlashes := (rest.drop 2).toString
      let (authority, path) := match cut afterSlashes '/' with
        | some (a, p) => (a, "/" ++ p)
        | none => (afterSlashes, "")
      checkAuthority authority
      pure path
    else pure rest
  checkEscapes .path rest.toList
  return ⟨(unescapeBytes false rest.toList).getD [], query⟩

def isBlank (c : Char) : Bool := c == ' ' || c == '\t'

def trimBlanks (s : String) : String :=
  String.ofList ((s.toList.dropWhile isBlank).reverse.dropWhile isBlank).reverse

def trimWhite (s : String) : String :=
  let white (c : Char) : Bool := isBlank c || c == '\n' || c == '\r'
  String.ofList ((s.toList.dropWhile white).reverse.dropWhile white).reverse

def joinContinued : List String → String → String × List String
  | l :: rest, acc =>
    if l.startsWith " " || l.startsWith "\t" then joinContinued rest (acc ++ " " ++ trimBlanks l)
    else (acc, l :: rest)
  | [], acc => (acc, [])

/-- The key of a header name as a header line writes it: a token in canonical form, or a token
with spaces as it is; `none` for an empty name or one with another character. -/
def lineKey? (name : String) : Option String :=
  if name.isEmpty || !name.toList.all (fun c => isTokenChar c || c == ' ') then none
  else if name.contains ' ' then some name
  else some (canonicalName name)

/-- Whether a character may stand in a header value: the tab, the visible ASCII characters, the
space, and anything beyond ASCII. -/
def isValueChar (c : Char) : Bool := c == '\t' || (0x20 ≤ c.toNat && c.toNat != 0x7F)

theorem joinContinued_length (ls : List String) (acc : String) :
    (joinContinued ls acc).2.length ≤ ls.length := by
  induction ls generalizing acc with
  | nil => simp [joinContinued]
  | cons l rest ih =>
    unfold joinContinued
    split
    · exact Nat.le_succ_of_le (ih _)
    · simp

/-- Reads header lines into a table, up to the first blank line. -/
def readHeaderLines (ls : List String) (h : Headers) : Except LineFault Headers :=
  match ls with
  | [] => .ok h
  | l :: rest =>
    if l.isEmpty then .ok h
    else if !l.contains ':' then .error (.missingColon l)
    else
      match _hj : joinContinued rest (trimBlanks l) with
      | (kv, left) =>
        match cut kv ':' with
        | none => .error (.malformedHeader kv)
        | some (k, v) =>
          match lineKey? k with
          | none => .error (.malformedHeader kv)
          | some key =>
            if !v.toList.all isValueChar then .error (.malformedHeader kv)
            else readHeaderLines left (h.add key (String.ofList (v.toList.dropWhile isBlank)))
termination_by ls.length
decreasing_by
  have hl := joinContinued_length rest (trimBlanks l)
  rw [_hj] at hl
  simp only [List.length_cons] at hl ⊢
  omega

/-- Reads the block of header lines and checks the `Host` and `Content-Length` headers. -/
def readHeaders (ls : List String) : Except LineFault Headers := do
  if let some first := ls.head? then
    if first.startsWith " " || first.startsWith "\t" then
      throw (if first.utf8ByteSize > 80 then .messageTooLarge else .headerInitialLine first)
  let h ← readHeaderLines ls Headers.empty
  if (h.values "Host").length > 1 then throw .tooManyHosts
  match h.values "Content-Length" with
  | [] => pure h
  | lengths@(first :: others) =>
    let first := trimWhite first
    if others.any (trimWhite · != first) then throw (.multipleLengths lengths)
    if first.isEmpty then throw .emptyLength
    if !first.toList.all Char.isDigit || first.toNat! ≥ Nat.pow 2 63 then throw (.badLength first)
    pure h

/-- Reads the request a method and a target make; an empty method is `GET`. -/
def read (method target : String) : Except LineFault RequestHead := do
  let method := if method.isEmpty then "GET" else method
  let text := method ++ " " ++ target ++ " HTTP/1.0\r\n\r\n"
  let (line, more) := match lines text with
    | l :: rest => (l, rest)
    | [] => ("", [])
  let some (m, afterMethod) := cut line ' ' | throw (.malformedRequest line)
  let some (uri, version) := cut afterMethod ' ' | throw (.malformedRequest line)
  if m.isEmpty || !m.toList.all isTokenChar then throw (.invalidMethod m)
  if !isVersion version then throw (.malformedVersion version)
  let authorityOnly := m == "CONNECT" && !uri.startsWith "/"
  let url := if authorityOnly then "http://" ++ uri else uri
  let t ← match readUri url with
    | .ok t => pure t
    | .error reason => throw (.badUrl url reason)
  let headers ← readHeaders more
  pure ⟨m, t, headers⟩

end RequestLine

end Bonding.Web

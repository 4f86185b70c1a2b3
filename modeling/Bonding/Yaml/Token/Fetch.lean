import Bonding.Yaml.Token.Scalar
import Bonding.Text.Utf8

/-!
Reading the next token: what the next character starts (an indicator, an anchor, a tag, a
directive, a document marker or a scalar), after the blanks, breaks and comments before it.

Blank space is spaces, and tabs too where no simple key may start or inside a flow collection;
a comment ends at the line break, and the comment lines right after it belong to it. A comment
after a token on its line goes with that token, save after a `-` entry.

The reader keeps two tokens ahead of the one taken, and more while that one may still turn out
to be a mapping key.
-/

namespace Bonding.Yaml

def endsAnchor (c : Option Char) : Bool :=
  isBlankOrEnd c || c == some '?' || c == some ':' || c == some ',' || c == some ']' ||
    c == some '}' || c == some '%' || c == some '@' || c == some (Char.ofNat 96)

def scanAnchor (isAlias : Bool) : ScanM Unit := do
  let start := (← get).mark
  skip
  let name ← collect isWordChar (← budget) ""
  let stop := (← get).mark
  if name.isEmpty || !endsAnchor (← look 0) then
    failAt start "did not find expected alphabetic or numeric character"
  push (if isAlias then .alias name else .anchor name) start stop

/-- Whether a character may be part of a tag; inside `!<...>` and in a `%TAG` prefix also
`,`, `[` and `]`. -/
def isUriChar (verbatim : Bool) (c : Option Char) : Bool :=
  isWordChar c || match c with
    | some c => ";/?:@&=+$.!~*'()%".contains c || (verbatim && ",[]".contains c)
    | none => false

def utf8Width (b : Nat) : Nat :=
  if b < 0x80 then 1
  else if b / 32 == 6 then 2
  else if b / 16 == 14 then 3
  else if b / 8 == 30 then 4
  else 0

/-- The text of the bytes of an escaped character; a byte that does not belong to one reads
as the replacement character. -/
def octetsText (bytes : List Nat) : String := String.ofList (Utf8.decodeLossy bytes)

/-- Reads the `%XX` escapes of one UTF-8 character: `left` bytes are still expected, none known
before the first. -/
def uriOctets (start : Mark) : Nat → Nat → List Nat → ScanM (List Nat)
  | 0, _, acc => pure acc
  | fuel + 1, left, acc => do
    let c0 ← look 0
    let c1 ← look 1
    let c2 ← look 2
    match c0, hexValue? c1, hexValue? c2 with
    | some '%', some h, some l =>
      let octet := h * 16 + l
      let left ←
        if acc.isEmpty then
          let w := utf8Width octet
          if w == 0 then failAt start "found an incorrect leading UTF-8 octet" else pure w
        else if octet / 64 != 2 then failAt start "found an incorrect trailing UTF-8 octet"
        else pure left
      skip
      skip
      skip
      if left ≤ 1 then return acc ++ [octet] else uriOctets start fuel (left - 1) (acc ++ [octet])
    | _, _, _ => failAt start "did not find URI escaped octet"

/-- Reads the characters of a tag after `head` (whose leading `!` is dropped); a tag with no
characters at all is a problem. -/
def tagUri (verbatim : Bool) (head : String) (start : Mark) : ScanM String := do
  let rec loop : Nat → String → Bool → ScanM (String × Bool)
    | 0, acc, seen => pure (acc, seen)
    | n + 1, acc, seen => do
      let c ← look 0
      if !isUriChar verbatim c then return (acc, seen)
      if c == some '%' then
        let bytes ← uriOctets start 4 0 []
        loop n (acc ++ octetsText bytes) true
      else
        let ch ← read
        loop n (acc.push ch) true
  let (uri, seen) ← loop (← budget) (head.drop 1).toString (!head.isEmpty)
  if !seen then failAt start "did not find expected tag URI"
  return uri

/-- Reads a tag handle: `!`, `!!` or `!name!`; in a directive a handle must end with `!`. -/
def tagHandle (directive : Bool) (start : Mark) : ScanM String := do
  if (← look 0) != some '!' then failAt start "did not find expected '!'"
  let first ← read
  let s ← collect isWordChar (← budget) (String.singleton first)
  if (← look 0) == some '!' then
    let c ← read
    return s.push c
  if directive && s != "!" then failAt start "did not find expected '!'"
  return s

/-- Reads a tag: `!<uri>`, `!handle!suffix`, `!suffix` or a lone `!`. -/
def scanTag : ScanM Unit := do
  let start := (← get).mark
  let (handle, suffix) ←
    if (← look 1) == some '<' then do
      skip
      skip
      let suffix ← tagUri true "" start
      if (← look 0) != some '>' then failAt start "did not find the expected '>'"
      skip
      pure ("", suffix)
    else do
      let handle ← tagHandle false start
      if handle.length > 1 && handle.startsWith "!" && handle.endsWith "!" then
        pure (handle, ← tagUri false "" start)
      else
        let suffix ← tagUri false handle start
        pure (if suffix.isEmpty then ("", "!") else ("!", suffix))
  let c ← look 0
  if !isBlankOrEnd c then
    if (← get).flowLevel == 0 || c != some ',' then
      failAt start "did not find expected whitespace or line break"
  push (.tag handle suffix) start (← get).mark

/-- Reads a number of a `%YAML` directive, of at most two digits. -/
def versionNumber (start : Mark) : ScanM Nat := do
  let rec loop : Nat → Nat → Nat → ScanM (Nat × Nat)
    | 0, v, len => pure (v, len)
    | n + 1, v, len => do
      let c ← look 0
      if !isDigitChar c then return (v, len)
      if len + 1 > 2 then failAt start "found extremely long version number"
      skip
      loop n (v * 10 + digitValue c) (len + 1)
  let (v, len) ← loop 3 0 0
  if len == 0 then failAt start "did not find expected version number"
  return v

/-- Reads a `%YAML` or `%TAG` directive and the rest of its line. -/
def scanDirective : ScanM Unit := do
  let start := (← get).mark
  skip
  let name ← collect isWordChar (← budget) ""
  if name.isEmpty then failAt start "could not find expected directive name"
  if !isBlankOrEnd (← look 0) then failAt start "found unexpected non-alphabetical character"
  if name == "YAML" then
    skipBlanks
    let major ← versionNumber start
    if (← look 0) != some '.' then failAt start "did not find expected digit or '.' character"
    skip
    let minor ← versionNumber start
    push (.versionDirective major minor) start (← get).mark
  else if name == "TAG" then
    skipBlanks
    let handle ← tagHandle true start
    if !isBlank (← look 0) then failAt start "did not find expected whitespace"
    skipBlanks
    let pfx ← tagUri true "" start
    if !isBlankOrEnd (← look 0) then failAt start "did not find expected whitespace or line break"
    push (.tagDirective handle pfx) start (← get).mark
  else failAt start "found unknown directive name"
  skipBlanks
  if (← look 0) == some '#' then skipToBreak
  if !isBreakOrEnd (← look 0) then failAt start "did not find expected comment or line break"
  if isBreak (← look 0) then skipLine

/-- The distance to the first character among the next `fuel` from `k` on that is not blank,
if it starts a comment. -/
def commentAhead (breaks : Bool) : Nat → Nat → ScanM (Option Nat)
  | 0, _ => pure none
  | n + 1, k => do
    let c ← look k
    if isBlank c || (breaks && isBreak c) then commentAhead breaks n (k + 1)
    else return (if c == some '#' then some k else none)

def skipLineComment : ScanM Unit := do
  if (← get).newlines == 0 then
    if (← commentAhead false 512 0).isSome then
      skipBlanks
      skipToBreak

/-- Moves past the comment at the position and the comment lines after it, up to the break
that ends the last of them. -/
def skipComments : ScanM Unit := do
  skipToBreak
  let rec more : Nat → ScanM Unit
    | 0 => pure ()
    | n + 1 => do
      match ← commentAhead true 511 1 with
      | none => pure ()
      | some k =>
        let target := (← get).mark.index + k
        repeatWhile (do return (← get).mark.index < target)
          (do if isBreak (← look 0) then skipLine else skip) (k + 1)
        skipToBreak
        more n
  more (← budget)

/-- Moves past blank space, line breaks and comments before the next token. -/
def scanToNextToken : ScanM Unit := do
  let rec loop : Nat → ScanM Unit
    | 0 => pure ()
    | n + 1 => do
      if (← get).mark.column == 0 && (← look 0) == some (Char.ofNat 0xFEFF) then skip
      repeatWhile (do
          let s ← get
          let c ← look 0
          return c == some ' ' || ((s.flowLevel > 0 || !s.keyAllowed) && c == some '\t'))
        skip (← budget)
      if (← look 0) == some '#' then skipComments
      if isBreak (← look 0) then
        skipLine
        if (← get).flowLevel == 0 then allowKey true
        loop n
  loop (← budget)

def fetchStreamStart : ScanM Unit := do
  let s ← get
  set { s with indent := -1, keys := [⟨false, false, 0, Mark.origin⟩], keyAllowed := true, started := true }
  push .streamStart s.mark s.mark

def fetchStreamEnd : ScanM Unit := do
  modify fun s => if s.mark.column != 0 then { s with mark := ⟨s.mark.index, s.mark.line + 1, 0⟩ } else s
  unrollIndent (-1) (← get).mark
  removeSimpleKey
  modify fun s => { s with keyAllowed := false, ended := true }
  let m := (← get).mark
  push .streamEnd m m

def fetchDirective : ScanM Unit := do
  unrollIndent (-1) (← get).mark
  removeSimpleKey
  allowKey false
  scanDirective

/-- Reads `---` or `...`. -/
def fetchDocumentIndicator (kind : TokenKind) : ScanM Unit := do
  unrollIndent (-1) (← get).mark
  removeSimpleKey
  allowKey false
  let start := (← get).mark
  skip
  skip
  skip
  push kind start (← get).mark

def pushIndicator (kind : TokenKind) : ScanM Unit := do
  let start := (← get).mark
  skip
  push kind start (← get).mark

def fetchFlowStart (kind : TokenKind) : ScanM Unit := do
  saveSimpleKey
  enterFlow
  allowKey true
  pushIndicator kind

def fetchFlowEnd (kind : TokenKind) : ScanM Unit := do
  removeSimpleKey
  leaveFlow
  allowKey false
  pushIndicator kind

def fetchFlowEntry : ScanM Unit := do
  removeSimpleKey
  allowKey true
  pushIndicator .flowEntry

def fetchBlockEntry : ScanM Unit := do
  let s ← get
  if s.flowLevel == 0 then
    if !s.keyAllowed then failAt s.mark "block sequence entries are not allowed in this context"
    rollIndent s.mark.column none .blockSequenceStart s.mark
  removeSimpleKey
  allowKey true
  pushIndicator .blockEntry

def fetchKey : ScanM Unit := do
  let s ← get
  if s.flowLevel == 0 then
    if !s.keyAllowed then failAt s.mark "mapping keys are not allowed in this context"
    rollIndent s.mark.column none .blockMappingStart s.mark
  removeSimpleKey
  allowKey ((← get).flowLevel == 0)
  pushIndicator .key

/-- Reads `:` before a value. When a simple key is pending, its key token (and the start of its
block mapping) goes before its tokens; otherwise the value follows a `?` key or none. -/
def fetchValue : ScanM Unit := do
  if ← keyStillPossible 0 then
    let s ← get
    let k := s.keys.headD default
    insertToken k.number ⟨.key, k.mark, k.mark⟩
    rollIndent k.mark.column (some k.number) .blockMappingStart k.mark
    modify fun s => { s with
      keys := { k with possible := false } :: s.keys.drop 1
      keyLevels := s.keyLevels.filter (·.1 != k.number)
      keyAllowed := false }
  else
    let s ← get
    if s.flowLevel == 0 then
      if !s.keyAllowed then failAt s.mark "mapping values are not allowed in this context"
      rollIndent s.mark.column none .blockMappingStart s.mark
    allowKey (s.flowLevel == 0)
  pushIndicator .value

def startsPlain (flow : Bool) (c c1 : Option Char) : Bool :=
  let indicator := match c with
    | some ch => "-?:,[]\x7b\x7d#&*!|>'\"%@".contains ch || ch == Char.ofNat 96
    | none => true
  !(isBlankOrEnd c || indicator) || (c == some '-' && !isBlank c1) ||
    (!flow && (c == some '?' || c == some ':') && !isBlank c1)

/-- Reads a token that may have a comment after it on its line. -/
def fetchContent (c c1 : Option Char) : ScanM Unit := do
  let s ← get
  let flow := s.flowLevel > 0
  match c with
  | some '[' => fetchFlowStart .flowSequenceStart
  | some '{' => fetchFlowStart .flowMappingStart
  | some ']' => fetchFlowEnd .flowSequenceEnd
  | some '}' => fetchFlowEnd .flowMappingEnd
  | some ',' => fetchFlowEntry
  | _ =>
    if c == some '-' && isBlankOrEnd c1 then fetchBlockEntry
    else if c == some '?' && (flow || isBlankOrEnd c1) then fetchKey
    else if c == some ':' && (flow || isBlankOrEnd c1) then fetchValue
    else if c == some '*' || c == some '&' then
      saveSimpleKey
      allowKey false
      scanAnchor (c == some '*')
    else if c == some '!' then
      saveSimpleKey
      allowKey false
      scanTag
    else if (c == some '|' || c == some '>') && !flow then
      removeSimpleKey
      allowKey true
      scanBlock (c == some '|')
    else if c == some '\'' || c == some '"' then
      saveSimpleKey
      allowKey false
      scanQuoted (c == some '\'')
    else if startsPlain flow c c1 then
      saveSimpleKey
      allowKey false
      scanPlain
    else failAt s.mark "found character that cannot start any token"

/-- Reads the next token onto the queue. -/
def fetchNextToken : ScanM Unit := do
  let _ ← look 0
  if !(← get).started then
    fetchStreamStart
    return
  let scanMark := (← get).mark
  scanToNextToken
  unrollIndent (← get).mark.column scanMark
  let c ← look 0
  let c1 ← look 1
  let c2 ← look 2
  let c3 ← look 3
  let column := (← get).mark.column
  if c.isNone then fetchStreamEnd
  else if column == 0 && c == some '%' then fetchDirective
  else if column == 0 && c == some '-' && c1 == some '-' && c2 == some '-' && isBlankOrEnd c3 then
    fetchDocumentIndicator .documentStart
  else if column == 0 && c == some '.' && c1 == some '.' && c2 == some '.' && isBlankOrEnd c3 then
    fetchDocumentIndicator .documentEnd
  else
    fetchContent c c1
    match (← get).queue.getLast? with
    | some t => if t.kind != .blockEntry then skipLineComment
    | none => skipLineComment

/-- Reads tokens until two are queued past the next one and the next one cannot be a key that
is still waiting for its `:`. -/
def fetchMore : ScanM Unit := do
  let rec loop : Nat → ScanM Unit
    | 0 => pure ()
    | n + 1 => do
      let s ← get
      if s.queue.length > 2 || s.ended then
        match s.keyLevels.find? (·.1 == s.taken) with
        | none => return
        | some (_, level) =>
          if level ≥ s.keys.length then return
          if !(← keyStillPossible (s.keys.length - 1 - level)) then return
      if (← get).ended then return
      fetchNextToken
      loop n
  loop ((← budget) + 8)

def peekToken : ScanM Token := do
  fetchMore
  let s ← get
  match s.queue with
  | t :: _ => return t
  | [] => return ⟨.streamEnd, s.mark, s.mark⟩

def takeToken : ScanM Unit :=
  modify fun s => { s with queue := s.queue.drop 1, taken := s.taken + 1 }

end Bonding.Yaml

import Bonding.Yaml.Token

/-!
The state of reading YAML text into tokens, and the steps every token reader shares: looking
ahead, moving past characters and line breaks, remembering where a mapping key without `?` may
start, and opening and closing block indentation.

Tokens are queued, because a key without `?` is known to be one only when the `:` after it is
read: the key token and the start of its block mapping are then put in front of the tokens read
since. The text is checked a chunk of 512 bytes at a time, as it is reached, for characters that
YAML does not allow.
-/

namespace Bonding.Yaml

def isBlank : Option Char → Bool
  | some ' ' | some '\t' => true
  | _ => false

def isBreak : Option Char → Bool
  | some '\r' | some '\n' => true
  | some c => c.toNat == 0x85 || c.toNat == 0x2028 || c.toNat == 0x2029
  | none => false

def isBreakOrEnd (c : Option Char) : Bool := isBreak c || c.isNone

def isBlankOrEnd (c : Option Char) : Bool := isBlank c || isBreakOrEnd c

def isWordChar : Option Char → Bool
  | some c => c.isAlphanum || c == '_' || c == '-'
  | none => false

def isDigitChar : Option Char → Bool
  | some c => c.isDigit
  | none => false

def hexValue? : Option Char → Option Nat
  | some c =>
    if c.isDigit then some (c.toNat - '0'.toNat)
    else if 'a' ≤ c && c ≤ 'f' then some (c.toNat - 'a'.toNat + 10)
    else if 'A' ≤ c && c ≤ 'F' then some (c.toNat - 'A'.toNat + 10)
    else none
  | none => none

def isAllowedChar (c : Char) : Bool :=
  let n := c.toNat
  n == 0x9 || n == 0xA || n == 0xD || (0x20 ≤ n && n ≤ 0x7E) || n == 0x85 ||
    (0xA0 ≤ n && n ≤ 0xD7FF) || (0xE000 ≤ n && n ≤ 0xFFFD) || 0x10000 ≤ n

/-- A place where a mapping key without `?` may start: whether it still may, whether the
indentation requires a key there, the number of its first token and where it starts. -/
structure SimpleKey where
  possible : Bool
  required : Bool
  number : Nat
  mark : Mark
  deriving Repr, Inhabited

/-- The state of reading tokens. -/
structure TokenStream where
  /-- the characters of the text, without a leading byte-order mark -/
  text : Array Char
  /-- the index of the next character -/
  pos : Nat
  mark : Mark
  /-- the characters checked so far -/
  checked : Nat
  /-- the ends of the chunks not yet checked, each with whether it holds a refused character -/
  chunks : List (Nat × Bool)
  started : Bool
  ended : Bool
  flowLevel : Nat
  /-- the tokens read and not yet taken -/
  queue : List Token
  /-- the number of tokens taken -/
  taken : Nat
  indent : Int
  indents : List Int
  keyAllowed : Bool
  /-- the possible simple keys, one for each flow level, the innermost first -/
  keys : List SimpleKey
  /-- the token numbers of possible keys, with the level (counted from the outermost) of each -/
  keyLevels : List (Nat × Nat)
  /-- the line breaks passed since the last character that is not blank -/
  newlines : Nat
  deriving Inhabited

def chunkBytes : Nat := 512

/-- The chunks of a text: each ends at the last character that fits in `chunkBytes` bytes from
its start, and notes whether it holds a character YAML does not allow. The first chunk also
holds `offset` bytes that are not characters of the text. -/
def chunksOf (cs : List Char) (offset : Nat) : List (Nat × Bool) :=
  let step := fun (acc : List (Nat × Bool) × Nat × Nat × Nat × Bool) (c : Char) =>
    let (done, index, used, start, bad) := acc
    let width := (String.singleton c).utf8ByteSize
    if used + width > chunkBytes then
      ((index, bad) :: done, index + 1, width, index, !isAllowedChar c)
    else (done, index + 1, used + width, start, bad || !isAllowedChar c)
  let (done, index, _, _, bad) := cs.foldl step ([], 0, offset, 0, false)
  ((index, bad) :: done).reverse

def TokenStream.ofString (t : String) : TokenStream :=
  let (cs, offset) := match t.toList with
    | c :: rest => if c.toNat == 0xFEFF then (rest, 3) else (c :: rest, 0)
    | [] => ([], 0)
  { text := cs.toArray, pos := 0, mark := Mark.origin, checked := 0, chunks := chunksOf cs offset,
    started := false, ended := false, flowLevel := 0, queue := [], taken := 0, indent := -1,
    indents := [], keyAllowed := false, keys := [], keyLevels := [], newlines := 0 }

def TokenStream.nextNumber (s : TokenStream) : Nat := s.taken + s.queue.length

abbrev ScanM := StateT TokenStream (Except Problem)

def refusedChar : Problem := ⟨.reader, Mark.origin, Mark.origin, "control characters are not allowed"⟩

def checkChunks (need : Nat) : Nat → List (Nat × Bool) → Except Problem (Nat × List (Nat × Bool))
  | checked, [] => .ok (checked, [])
  | checked, (stop, bad) :: rest =>
    if need ≤ checked then .ok (checked, (stop, bad) :: rest)
    else if bad then .error refusedChar
    else checkChunks need stop rest

def look (k : Nat) : ScanM (Option Char) := do
  let s ← get
  if s.pos + k + 1 > s.checked then
    match checkChunks (s.pos + k + 1) s.checked s.chunks with
    | .ok (checked, chunks) => set { s with checked, chunks }
    | .error p => throw p
  let s ← get
  return s.text[s.pos + k]?

def failAt {α : Type} (context : Mark) (text : String) : ScanM α := do
  throw ⟨.scanner, context, (← get).mark, text⟩

def skip : ScanM Unit := do
  let c ← look 0
  modify fun s => { s with
    pos := s.pos + 1
    mark := ⟨s.mark.index + 1, s.mark.line, s.mark.column + 1⟩
    newlines := if isBlank c then s.newlines else 0 }

def read : ScanM Char := do
  let c ← look 0
  skip
  return c.getD ' '

def advanceLine (n : Nat) : ScanM Unit :=
  modify fun s => { s with
    pos := s.pos + n
    mark := ⟨s.mark.index + n, s.mark.line + 1, 0⟩
    newlines := s.newlines + 1 }

def skipLine : ScanM Unit := do
  let c0 ← look 0
  let c1 ← look 1
  if c0 == some '\r' && c1 == some '\n' then advanceLine 2
  else if isBreak c0 then advanceLine 1

/-- Moves past a line break and gives its text: LF for CR, LF, CR LF and NEL; LS and PS as
they are. -/
def readLine : ScanM String := do
  let c0 ← look 0
  let c1 ← look 1
  if c0 == some '\r' && c1 == some '\n' then do advanceLine 2; return "\n"
  match c0 with
  | some '\r' | some '\n' => do advanceLine 1; return "\n"
  | some c =>
    if c.toNat == 0x85 then do advanceLine 1; return "\n"
    else if c.toNat == 0x2028 || c.toNat == 0x2029 then do advanceLine 1; return c.toString
    else return ""
  | none => return ""

def budget : ScanM Nat := do
  let s ← get
  return s.text.size + 2 - s.pos

def repeatWhile (cond : ScanM Bool) (body : ScanM Unit) : Nat → ScanM Unit
  | 0 => pure ()
  | n + 1 => do
    if ← cond then
      body
      repeatWhile cond body n

def collect (p : Option Char → Bool) : Nat → String → ScanM String
  | 0, acc => pure acc
  | n + 1, acc => do
    if p (← look 0) then
      let c ← read
      collect p n (acc.push c)
    else pure acc

def skipBlanks : ScanM Unit := do
  repeatWhile (do return isBlank (← look 0)) skip (← budget)

def skipToBreak : ScanM Unit := do
  repeatWhile (do return !isBreakOrEnd (← look 0)) skip (← budget)

def push (kind : TokenKind) (start stop : Mark) : ScanM Unit :=
  modify fun s => { s with queue := s.queue ++ [⟨kind, start, stop⟩] }

def insertAt (k : Nat) (t : Token) : ScanM Unit :=
  modify fun s => { s with queue := s.queue.take k ++ t :: s.queue.drop k }

/-- Puts a token at the place of token `number` in the queue, or at its end when that token
was already taken. -/
def insertToken (number : Nat) (t : Token) : ScanM Unit := do
  let s ← get
  if number < s.taken then push t.kind t.start t.stop else insertAt (number - s.taken) t

def allowKey (b : Bool) : ScanM Unit := modify fun s => { s with keyAllowed := b }

/-- Forgets the possible simple key of the current level; a required one is a problem. -/
def removeSimpleKey : ScanM Unit := do
  let s ← get
  match s.keys with
  | k :: rest =>
    if k.possible then
      if k.required then throw ⟨.scanner, k.mark, s.mark, "could not find expected ':'"⟩
      set { s with
        keys := { k with possible := false } :: rest
        keyLevels := s.keyLevels.filter (·.1 != k.number) }
  | [] => pure ()

def saveSimpleKey : ScanM Unit := do
  let s ← get
  if s.keyAllowed then
    let key : SimpleKey := ⟨true, s.flowLevel == 0 && s.indent == (s.mark.column : Int), s.nextNumber, s.mark⟩
    removeSimpleKey
    modify fun s => { s with
      keys := key :: s.keys.drop 1
      keyLevels := (key.number, s.keys.length - 1) :: s.keyLevels.filter (·.1 != key.number) }

/-- Whether the simple key `depth` levels in can still be a key. One on an earlier line, or
more than 1024 characters back, cannot; if it was required, that is a problem. -/
def keyStillPossible (depth : Nat) : ScanM Bool := do
  let s ← get
  match s.keys[depth]? with
  | none => return false
  | some k =>
    if !k.possible then return false
    if k.mark.line < s.mark.line || k.mark.index + 1024 < s.mark.index then
      if k.required then throw ⟨.scanner, k.mark, s.mark, "could not find expected ':'"⟩
      set { s with keys := s.keys.set depth { k with possible := false } }
      return false
    return true

def maxDepth : Nat := 10000

def enterFlow : ScanM Unit := do
  let s ← get
  let key : SimpleKey := ⟨false, false, s.nextNumber, s.mark⟩
  set { s with keys := key :: s.keys, flowLevel := s.flowLevel + 1 }
  if s.flowLevel + 1 > maxDepth then
    failAt key.mark ("exceeded max depth of " ++ toString maxDepth)

/-- Leaves a flow collection. -/
def leaveFlow : ScanM Unit := modify fun s =>
  if s.flowLevel > 0 then
    match s.keys with
    | k :: rest => { s with
        flowLevel := s.flowLevel - 1
        keys := rest
        keyLevels := s.keyLevels.filter (·.1 != k.number) }
    | [] => { s with flowLevel := s.flowLevel - 1 }
  else s

/-- Opens a block at `column` when it is deeper than the current one, queuing `kind` (at the
place of token `number` when given). -/
def rollIndent (column : Nat) (number : Option Nat) (kind : TokenKind) (mark : Mark) : ScanM Unit := do
  let s ← get
  if s.flowLevel == 0 && s.indent < (column : Int) then
    set { s with indents := s.indent :: s.indents, indent := column }
    if s.indents.length + 1 > maxDepth then
      failAt (s.keys.headD default).mark ("exceeded max depth of " ++ toString maxDepth)
    let t : Token := ⟨kind, mark, mark⟩
    match number with
    | some n => insertToken n t
    | none => push t.kind mark mark

/-- Closes the blocks deeper than `column`, giving the indentation left, the levels left and
the block ends to queue. -/
def closeBlocks (column : Int) (stop : Token) : Int → List Int → List Token → Int × List Int × List Token
  | indent, top :: rest, ends =>
    if indent > column then closeBlocks column stop top rest (ends ++ [stop]) else (indent, top :: rest, ends)
  | indent, [], ends => (indent, [], ends)

def unrollIndent (column : Int) (scanMark : Mark) : ScanM Unit := do
  let s ← get
  if s.flowLevel == 0 then
    let m : Mark := ⟨scanMark.index - 1, scanMark.line, scanMark.column⟩
    let (indent, indents, ends) := closeBlocks column ⟨.blockEnd, m, m⟩ s.indent s.indents []
    set { s with indent, indents, queue := s.queue ++ ends }

end Bonding.Yaml

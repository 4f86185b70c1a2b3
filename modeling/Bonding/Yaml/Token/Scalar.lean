import Bonding.Yaml.Token.Stream

/-!
Reading scalars: plain ones, single- and double-quoted ones, and literal and folded blocks.

Lines of a plain or quoted scalar are folded: the break between two lines becomes a space, and
each further empty line a line feed. A double-quoted scalar also reads escapes, and a backslash
before a break joins the lines. A block scalar keeps its lines (a folded one joins lines that do
not start with a blank), takes its indentation from an indicator or its first line, and keeps
the final breaks as its chomping indicator says.
-/

namespace Bonding.Yaml

/-- The text of a scalar being read, with the blanks and breaks that are not placed yet. -/
structure Folding where
  text : String
  leadingBreak : String
  trailingBreaks : String
  whitespaces : String
  leadingBlanks : Bool
  deriving Inhabited

def Folding.empty : Folding := ⟨"", "", "", "", false⟩

/-- Places the pending blanks and breaks before more text. After a line break, a single line
feed becomes a space and the empty lines after it stay as line feeds; other blanks stay. -/
def Folding.fold (f : Folding) : Folding :=
  if f.leadingBlanks then
    let text :=
      if f.leadingBreak.startsWith "\n" then
        if f.trailingBreaks.isEmpty then f.text.push ' ' else f.text ++ f.trailingBreaks
      else f.text ++ f.leadingBreak ++ f.trailingBreaks
    { f with text, leadingBreak := "", trailingBreaks := "", leadingBlanks := false }
  else { f with text := f.text ++ f.whitespaces, whitespaces := "" }

def atDocumentIndicator : ScanM Bool := do
  let c0 ← look 0
  let c1 ← look 1
  let c2 ← look 2
  let c3 ← look 3
  let s ← get
  return s.mark.column == 0 && isBlankOrEnd c3 &&
    ((c0 == some '-' && c1 == some '-' && c2 == some '-') || (c0 == some '.' && c1 == some '.' && c2 == some '.'))

/-- Reads blanks and line breaks into a folding. When `tabLimit` gives a scalar's start and
indentation, a tab before that indentation on a continued line is a problem. -/
def foldBlanks (tabLimit : Option (Mark × Int)) (f : Folding) : Nat → ScanM Folding
  | 0 => pure f
  | n + 1 => do
    let c ← look 0
    if isBlank c then
      if let some (start, indent) := tabLimit then
        if f.leadingBlanks && ((← get).mark.column : Int) < indent && c == some '\t' then
          failAt start "found a tab character that violates indentation"
      if f.leadingBlanks then
        skip
        foldBlanks tabLimit f n
      else
        let ch ← read
        foldBlanks tabLimit { f with whitespaces := f.whitespaces.push ch } n
    else if isBreak c then
      let b ← readLine
      if f.leadingBlanks then foldBlanks tabLimit { f with trailingBreaks := f.trailingBreaks ++ b } n
      else foldBlanks tabLimit { f with whitespaces := "", leadingBreak := f.leadingBreak ++ b, leadingBlanks := true } n
    else pure f

def isFlowIndicator : Option Char → Bool
  | some ',' | some '?' | some '[' | some ']' | some '{' | some '}' => true
  | _ => false

/-- Reads the characters of a plain scalar up to a blank, a `:` before a blank, or (in a flow
collection) an indicator; gives the folding and the mark after the last character. -/
def plainRun (f : Folding) (stop : Mark) : Nat → ScanM (Folding × Mark)
  | 0 => pure (f, stop)
  | n + 1 => do
    let c ← look 0
    let c1 ← look 1
    let s ← get
    if isBlankOrEnd c || (c == some ':' && isBlankOrEnd c1) || (s.flowLevel > 0 && isFlowIndicator c) then
      return (f, stop)
    let f := f.fold
    let ch ← read
    plainRun { f with text := f.text.push ch } (← get).mark n

/-- Reads the lines of a plain scalar; it ends at a comment, a document indicator, or a line
indented less than `indent` outside flow collections. -/
def plainLines (start : Mark) (indent : Int) (f : Folding) (stop : Mark) : Nat → ScanM (Folding × Mark)
  | 0 => pure (f, stop)
  | n + 1 => do
    if ← atDocumentIndicator then return (f, stop)
    if (← look 0) == some '#' then return (f, stop)
    let (f, stop) ← plainRun f stop (← budget)
    let c ← look 0
    if !(isBlank c || isBreak c) then return (f, stop)
    let f ← foldBlanks (some (start, indent)) f (← budget)
    let s ← get
    if s.flowLevel == 0 && (s.mark.column : Int) < indent then return (f, stop)
    plainLines start indent f stop n

def scanPlain : ScanM Unit := do
  let s ← get
  let start := s.mark
  let (f, stop) ← plainLines start (s.indent + 1) Folding.empty start (← budget)
  push (.scalar f.text .plain) start stop
  if f.leadingBlanks then allowKey true

/-- What an escape letter stands for: its text, or the number of hexadecimal digits after it. -/
def escapeOf : Char → Option (String ⊕ Nat)
  | '0' => some (.inl (String.singleton (Char.ofNat 0)))
  | 'a' => some (.inl (String.singleton (Char.ofNat 7)))
  | 'b' => some (.inl (String.singleton (Char.ofNat 8)))
  | 't' | '\t' => some (.inl "\t")
  | 'n' => some (.inl "\n")
  | 'v' => some (.inl (String.singleton (Char.ofNat 11)))
  | 'f' => some (.inl (String.singleton (Char.ofNat 12)))
  | 'r' => some (.inl "\r")
  | 'e' => some (.inl (String.singleton (Char.ofNat 0x1B)))
  | ' ' => some (.inl " ")
  | '"' => some (.inl "\"")
  | '\'' => some (.inl "'")
  | '\\' => some (.inl "\\")
  | 'N' => some (.inl (String.singleton (Char.ofNat 0x85)))
  | '_' => some (.inl (String.singleton (Char.ofNat 0xA0)))
  | 'L' => some (.inl (String.singleton (Char.ofNat 0x2028)))
  | 'P' => some (.inl (String.singleton (Char.ofNat 0x2029)))
  | 'x' => some (.inr 2)
  | 'u' => some (.inr 4)
  | 'U' => some (.inr 8)
  | _ => none

def hexAhead (start : Mark) (width : Nat) : Nat → Nat → ScanM Nat
  | 0, acc => pure acc
  | k + 1, acc => do
    match hexValue? (← look (width - (k + 1))) with
    | some d => hexAhead start width k (acc * 16 + d)
    | none => failAt start "did not find expected hexdecimal number"

def escapedCode (start : Mark) (width : Nat) : ScanM Char := do
  let v ← hexAhead start width width 0
  if (0xD800 ≤ v && v ≤ 0xDFFF) || v > 0x10FFFF then
    failAt start "found invalid Unicode character escape code"
  for _ in List.range width do skip
  return Char.ofNat v

/-- Reads the characters of a quoted scalar up to a blank or the closing quote; `true` when a
backslash before a line break ended the run. -/
def quotedRun (single : Bool) (start : Mark) (text : String) : Nat → ScanM (String × Bool)
  | 0 => pure (text, false)
  | n + 1 => do
    let c ← look 0
    let c1 ← look 1
    if isBlankOrEnd c then return (text, false)
    if single && c == some '\'' then
      if c1 == some '\'' then
        skip
        skip
        quotedRun single start (text.push '\'') n
      else return (text, false)
    else if !single && c == some '"' then return (text, false)
    else if !single && c == some '\\' && isBreak c1 then
      skip
      skipLine
      return (text, true)
    else if !single && c == some '\\' then
      match c1.bind escapeOf with
      | none => failAt start "found unknown escape character"
      | some (.inl t) =>
        skip
        skip
        quotedRun single start (text ++ t) n
      | some (.inr width) =>
        skip
        skip
        let ch ← escapedCode start width
        quotedRun single start (text.push ch) n
    else
      let ch ← read
      quotedRun single start (text.push ch) n

/-- Reads the lines of a quoted scalar up to its closing quote. -/
def quotedLines (single : Bool) (start : Mark) (f : Folding) : Nat → ScanM Folding
  | 0 => pure f
  | n + 1 => do
    if ← atDocumentIndicator then failAt start "found unexpected document indicator"
    if (← look 0).isNone then failAt start "found unexpected end of stream"
    let (text, joined) ← quotedRun single start f.text (← budget)
    let f := { f with text, leadingBlanks := joined }
    if (← look 0) == some (if single then '\'' else '"') then return f
    let f ← foldBlanks none f (← budget)
    quotedLines single start f.fold n

def scanQuoted (single : Bool) : ScanM Unit := do
  let start := (← get).mark
  skip
  let f ← quotedLines single start Folding.empty (← budget)
  skip
  push (.scalar f.text (if single then .singleQuoted else .doubleQuoted)) start (← get).mark

def digitValue : Option Char → Nat
  | some c => c.toNat - '0'.toNat
  | none => 0

/-- Moves past the indentation and the empty lines before a line of a block scalar, giving the
indentation, the breaks passed and the mark after the last of them. An indentation of zero is
not known yet: it becomes that of the most indented of these lines, at least one more than the
enclosing block's and at least one. -/
def blockBreaks (start : Mark) (outer : Int) (indent : Nat) : ScanM (Nat × String × Mark) := do
  let rec loop : Nat → Nat → String → Mark → ScanM (Nat × String × Mark)
    | 0, deepest, breaks, stop => pure (deepest, breaks, stop)
    | n + 1, deepest, breaks, stop => do
      repeatWhile (do
          let col := (← get).mark.column
          return (indent == 0 || col < indent) && (← look 0) == some ' ')
        skip (← budget)
      let col := (← get).mark.column
      let deepest := max deepest col
      let c ← look 0
      if (indent == 0 || col < indent) && c == some '\t' then
        failAt start "found a tab character where an indentation space is expected"
      if !isBreak c then return (deepest, breaks, stop)
      let b ← readLine
      loop n deepest (breaks ++ b) (← get).mark
  let (deepest, breaks, stop) ← loop (← budget) 0 "" (← get).mark
  let indent := if indent == 0 then max (max deepest (outer + 1).toNat) 1 else indent
  return (indent, breaks, stop)

/-- Reads the lines of a block scalar at `indent`, giving the text, the last line break, the
empty lines after it and the mark after them. -/
def blockLines (literal : Bool) (start : Mark) (outer : Int) (indent : Nat) :
    Nat → String → String → String → Bool → Mark → ScanM (String × String × String × Mark)
  | 0, text, lastBreak, breaks, _, stop => pure (text, lastBreak, breaks, stop)
  | n + 1, text, lastBreak, breaks, leadingBlank, stop => do
    let c ← look 0
    if (← get).mark.column != indent || c.isNone then return (text, lastBreak, breaks, stop)
    let text :=
      if !literal && !leadingBlank && !isBlank c && lastBreak.startsWith "\n" then
        if breaks.isEmpty then text.push ' ' else text
      else text ++ lastBreak
    let text := text ++ breaks
    let line ← collect (fun c => !isBreakOrEnd c) (← budget) ""
    let lastBreak ← readLine
    let (_, breaks, stop) ← blockBreaks start outer indent
    blockLines literal start outer indent n (text ++ line) lastBreak breaks (isBlank c) stop

/-- Reads the chomping and indentation indicators of a block scalar, in either order. -/
def blockIndicators (start : Mark) : ScanM (Int × Nat) := do
  let c ← look 0
  if c == some '+' || c == some '-' then
    skip
    let chomp : Int := if c == some '+' then 1 else -1
    let d ← look 0
    if isDigitChar d then
      if d == some '0' then failAt start "found an indentation indicator equal to 0"
      skip
      return (chomp, digitValue d)
    return (chomp, 0)
  else if isDigitChar c then
    if c == some '0' then failAt start "found an indentation indicator equal to 0"
    skip
    let d ← look 0
    if d == some '+' || d == some '-' then
      skip
      return (if d == some '+' then 1 else -1, digitValue c)
    return (0, digitValue c)
  else return (0, 0)

/-- Reads a literal or folded block scalar. -/
def scanBlock (literal : Bool) : ScanM Unit := do
  let start := (← get).mark
  skip
  let (chomping, increment) ← blockIndicators start
  skipBlanks
  if (← look 0) == some '#' then skipToBreak
  if !isBreakOrEnd (← look 0) then failAt start "did not find expected comment or line break"
  if isBreak (← look 0) then skipLine
  let outer := (← get).indent
  let indent : Nat :=
    if increment > 0 then (if outer ≥ 0 then (outer + increment).toNat else increment) else 0
  let (indent, breaks, stop) ← blockBreaks start outer indent
  let (text, lastBreak, breaks, stop) ← blockLines literal start outer indent (← budget) "" "" breaks false stop
  let text := if chomping != -1 then text ++ lastBreak else text
  let text := if chomping == 1 then text ++ breaks else text
  push (.scalar text (if literal then .literal else .folded)) start stop

end Bonding.Yaml

/-!
Environment files: lines of `NAME=value` (or `NAME: value`, optionally after `export `), with `#`
comments. A value is read in one of three ways.

* Unquoted, it runs to the end of the line, loses a trailing comment that follows a blank, and
  is trimmed.
* In single quotes it is kept as it is, and may span lines.
* In double quotes, `\n` and `\r` stand for line breaks, a backslash before any other character
  but `$` is dropped, and it may span lines.

Unquoted and double-quoted values expand `$NAME` and `${NAME}` (names of capitals, digits and
`_`) to a variable read earlier in the file, or else to nothing; `\$` keeps the dollar. A name is
checked byte by byte: ASCII letters, digits, `_`, `.` and blanks pass, and so does a byte above
0x7F that, read as a Latin-1 character, is a letter, a number or a blank. A file reads as a whole
or not at all.
-/

namespace Bonding.Dotenv

/-- The blanks within a line: tab, vertical tab, form feed, carriage return, space, next line
and no-break space. -/
def isBlank (c : Char) : Bool :=
  c == '\t' || c.toNat == 11 || c.toNat == 12 || c == '\r' || c == ' ' || c.toNat == 0x85 ||
    c.toNat == 0xA0

def isWhite (c : Char) : Bool :=
  isBlank c || c == '\n' || c.toNat == 0x1680 || (0x2000 ≤ c.toNat && c.toNat ≤ 0x200A) ||
    c.toNat == 0x2028 || c.toNat == 0x2029 || c.toNat == 0x202F || c.toNat == 0x205F ||
    c.toNat == 0x3000

abbrev Vars := List (String × String)

def Vars.get? (vs : Vars) (name : String) : Option String :=
  (vs.reverse.find? (·.1 == name)).map (·.2)

/-- Skips blank lines and comment lines up to the start of the next statement; `none` at the
end of the file. -/
def statementStart : (fuel : Nat) → List Char → Option (List Char)
  | 0, _ => none
  | fuel + 1, cs =>
    match cs.dropWhile isWhite with
    | [] => none
    | '#' :: rest =>
      match rest.dropWhile (· != '\n') with
      | [] => none
      | rest => statementStart fuel rest
    | cs => some cs

def isLatinNameByte (b : Nat) : Bool :=
  b == 0x85 || b == 0xA0 || [0xAA, 0xB2, 0xB3, 0xB5, 0xB9, 0xBA, 0xBC, 0xBD, 0xBE].contains b ||
    (0xC0 ≤ b && b ≤ 0xFF && b != 0xD7 && b != 0xF7)

def isNameChar (c : Char) : Bool :=
  if c.toNat < 0x80 then c.isAlphanum || c == '_' || c == '.'
  else (String.singleton c).toUTF8.toList.all fun b => isLatinNameByte b.toNat

/-- Reads a name up to `=` or `:`: the name, trimmed, and what follows the sign, without its
leading blanks. A name that reaches the end of the file is empty, and the whole text is its
value. -/
def readName (cs : List Char) : Except String (String × List Char) :=
  let cs := cs.dropWhile isBlank
  let cs := match cs with
    | 'e' :: 'x' :: 'p' :: 'o' :: 'r' :: 't' :: rest =>
      match rest with
      | c :: _ => if isBlank c then rest.dropWhile isBlank else cs
      | [] => cs
    | _ => cs
  let rec loop : List Char → List Char → Except String (String × List Char)
    | [], _ => .ok ("", cs.dropWhile isBlank)
    | c :: rest, acc =>
      if isBlank c then loop rest (c :: acc)
      else if c == '=' || c == ':' then
        .ok (String.ofList (acc.dropWhile isWhite).reverse, rest.dropWhile isBlank)
      else if isNameChar c then loop rest (c :: acc)
      else .error ("unexpected character " ++ c.toString ++ " in variable name")
  loop cs []

/-- The end of a match of a variable reference after its `$`: an optional `(`, an optional
`{`, a name of capitals, digits and `_`, and an optional `}`. -/
def referenceAfter (cs : List Char) : List Char × String × List Char :=
  let (paren, cs) := match cs with
    | '(' :: r => (['('], r)
    | r => ([], r)
  let (brace, cs) := match cs with
    | '{' :: r => (['{'], r)
    | r => ([], r)
  let isRefChar (c : Char) : Bool := ('A' ≤ c && c ≤ 'Z') || c.isDigit || c == '_'
  let name := cs.takeWhile isRefChar
  let cs := cs.dropWhile isRefChar
  let (close, cs) := match cs with
    | '}' :: r => (['}'], r)
    | r => ([], r)
  (paren ++ brace ++ name ++ close, String.ofList name, cs)

/-- Expands the variable references of a value, a reference at a time. -/
def expandWith (vars : Vars) : (fuel : Nat) → List Char → List Char
  | 0, cs => cs
  | _, [] => []
  | fuel + 1, '\\' :: '$' :: rest =>
    let (matched, _, rest) := referenceAfter rest
    '$' :: matched ++ expandWith vars fuel rest
  | fuel + 1, '$' :: rest =>
    let (matched, name, after) := referenceAfter rest
    if name.isEmpty then '$' :: matched ++ expandWith vars fuel after
    else ((vars.get? name).getD "").toList ++ expandWith vars fuel after
  | fuel + 1, c :: rest => c :: expandWith vars fuel rest

def expand (vars : Vars) (cs : List Char) : List Char :=
  expandWith vars (cs.length + 1) cs

/-- The escapes of a double-quoted value: `\n` and `\r` first, then a backslash before any
character but `$` is dropped. -/
def unescape (cs : List Char) : List Char :=
  let rec breaks : List Char → List Char
    | '\\' :: 'n' :: rest => '\n' :: breaks rest
    | '\\' :: 'r' :: rest => '\r' :: breaks rest
    | '\\' :: c :: rest => if c == '\n' then '\\' :: breaks (c :: rest) else '\\' :: c :: breaks rest
    | c :: rest => c :: breaks rest
    | [] => []
  let rec drop : List Char → List Char
    | '\\' :: c :: rest => if c == '$' then '\\' :: drop (c :: rest) else c :: drop rest
    | c :: rest => c :: drop rest
    | [] => []
  drop (breaks cs)

/-- An unquoted value: up to the end of the line, without a comment that follows a blank, and
trimmed; what follows is the rest of the file from the line break on. -/
def unquotedValue (cs : List Char) : List Char × List Char :=
  let line := cs.takeWhile fun c => c != '\n' && c != '\r'
  let rest := cs.dropWhile fun c => c != '\n' && c != '\r'
  -- the last `#` that follows a blank starts a comment
  let rec cut : List Char → Option (List Char)
    | a :: '#' :: more =>
      match cut ('#' :: more) with
      | some v => some (a :: v)
      | none => if isBlank a then some [a] else none
    | a :: more => (cut more).map (a :: ·)
    | [] => none
  let body := (cut line).getD line
  ((body.dropWhile isBlank).reverse.dropWhile isBlank |>.reverse, rest)

/-- A quoted value after its opening quote `q`: up to the first `q` that no backslash precedes,
with the quote characters at both ends taken off. -/
def quotedValue (q : Char) (cs : List Char) : Except String (List Char × List Char) :=
  let rec scan : Char → List Char → List Char → Option (List Char × List Char)
    | prev, c :: rest, acc =>
      if c == q && prev != '\\' then some (acc.reverse, rest) else scan c rest (c :: acc)
    | _, [], _ => none
  match scan q cs [] with
  | some (body, rest) =>
    let trimmed := ((body.dropWhile (· == q)).reverse.dropWhile (· == q)).reverse
    .ok (trimmed, rest)
  | none => .error "unterminated quoted value"

/-- Reads statements to the end of the file, after the variables read so far. -/
def readStatements : (fuel : Nat) → Vars → List Char → Except String Vars
  | 0, vars, _ => .ok vars
  | fuel + 1, vars, cs =>
    match statementStart (cs.length + 1) cs with
    | none => .ok vars
    | some cs => do
      let (name, cs) ← readName cs
      match cs with
      | '"' :: rest =>
        let (v, rest) ← quotedValue '"' rest
        readStatements fuel (vars ++ [(name, String.ofList (expand vars (unescape v)))]) rest
      | '\'' :: rest =>
        let (v, rest) ← quotedValue '\'' rest
        readStatements fuel (vars ++ [(name, String.ofList v)]) rest
      | _ =>
        let (v, rest) := unquotedValue cs
        readStatements fuel (vars ++ [(name, String.ofList (expand vars v))]) rest

def parse (text : String) : Except String Vars :=
  let cs := (text.replace "\r\n" "\n").toList
  readStatements (cs.length + 1) [] cs

end Bonding.Dotenv

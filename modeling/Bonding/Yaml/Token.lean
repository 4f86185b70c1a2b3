/-!
The tokens of YAML text and the places they come from. A mark is a position counted in
characters, with lines and columns from zero. A problem carries the stage that found it, the mark
of the construct being read (zero when there is none) and the mark where reading stopped; its
message names a line, counted from one for the scanner's problems and from zero for the
parser's, and names none on the first line.
-/

namespace Bonding.Yaml

/-- A position in the text: the character index, the line and the column, all from zero. -/
structure Mark where
  index : Nat
  line : Nat
  column : Nat
  deriving Repr, Inhabited, DecidableEq

def Mark.origin : Mark := ⟨0, 0, 0⟩

/-- How a scalar is written. -/
inductive ScalarStyle where
  | plain
  | singleQuoted
  | doubleQuoted
  | literal
  | folded
  deriving Repr, Inhabited, DecidableEq

/-- What a token is. -/
inductive TokenKind where
  | streamStart
  | streamEnd
  | versionDirective (major minor : Nat)
  | tagDirective (handle pfx : String)
  | documentStart
  | documentEnd
  | blockSequenceStart
  | blockMappingStart
  | blockEnd
  | flowSequenceStart
  | flowSequenceEnd
  | flowMappingStart
  | flowMappingEnd
  | blockEntry
  | flowEntry
  | key
  | value
  | alias (name : String)
  | anchor (name : String)
  | tag (handle suffix : String)
  | scalar (text : String) (style : ScalarStyle)
  deriving Repr, Inhabited, DecidableEq

/-- A token with the marks where it starts and ends. -/
structure Token where
  kind : TokenKind
  start : Mark
  stop : Mark
  deriving Repr, Inhabited

/-- The stage of reading that found a problem. -/
inductive Stage where
  | reader
  | scanner
  | parser
  deriving Repr, Inhabited, DecidableEq

/-- A problem of reading: its stage, the mark of the construct being read, the mark where reading
stopped, and what went wrong. -/
structure Problem where
  stage : Stage
  context : Mark
  mark : Mark
  text : String
  deriving Repr, Inhabited

/-- The message of a problem: the line of the construct being read if it is past the first line,
else the line where reading stopped if that is, else none. -/
def Problem.message (p : Problem) : String :=
  let bump := if p.stage == .scanner then 1 else 0
  let line := if p.context.line != 0 then p.context.line + bump
    else if p.mark.line != 0 then p.mark.line + bump else 0
  "yaml: " ++ (if line != 0 then "line " ++ toString line ++ ": " else "") ++ p.text

end Bonding.Yaml

import Bonding.Yaml.Token.Fetch
import Bonding.Yaml.Resolve

/-!
The nodes of a YAML document and how they are read from tokens.

A node is a scalar, a sequence, a mapping, or an alias naming an anchored node. Each node keeps
its tag (the one written, or the one its kind and text resolve to) and its line, counted from
one. Anchored nodes are kept in a table, filled when the node is complete, so that an alias can
name a node that contains it.

The grammar is that of YAML 1.1 streams: a document of block nodes, with flow collections,
properties (an anchor and a tag, in either order) before a node, and empty nodes where a value
is left out. Only the first document of a stream is read.
-/

namespace Bonding.Yaml

/-- A node of a YAML document. -/
inductive Node where
  | scalar (tag value : String) (style : ScalarStyle) (line : Nat)
  | sequence (tag : String) (items : List Node) (line : Nat)
  | mapping (tag : String) (pairs : List (Node × Node)) (line : Nat)
  /-- an alias of the anchored node in `slot`; `id` tells this alias from the others -/
  | alias (name : String) (slot id : Nat) (line : Nat)
  deriving Inhabited, Repr

namespace Node

def text : Node → String
  | .scalar _ v _ _ => v
  | .alias name _ _ _ => name
  | _ => ""

def line : Node → Nat
  | .scalar _ _ _ l | .sequence _ _ l | .mapping _ _ l | .alias _ _ _ l => l

def tag : Node → String
  | .scalar t _ _ _ | .sequence t _ _ | .mapping t _ _ => t
  | .alias .. => ""

def kindIndex : Node → Nat
  | .scalar .. => 0
  | .sequence .. => 1
  | .mapping .. => 2
  | .alias .. => 3

def sameKey (a b : Node) : Bool := a.kindIndex == b.kindIndex && a.text == b.text

end Node

/-- A document: its root node, if any, its anchored nodes, and the length of its text. -/
structure Document where
  root : Option Node
  anchors : Array Node
  size : Nat
  deriving Inhabited

def Document.target (d : Document) (slot : Nat) : Node := d.anchors.getD slot default

def Document.tagOf (d : Document) : Node → String
  | .alias _ slot _ _ => (d.target slot).tag
  | n => n.tag

/-- The state of reading a document: the tokens, the tag directives, the anchors by name (the
latest first) and the anchored nodes. -/
structure Composer where
  stream : TokenStream
  directives : List (String × String)
  names : List (String × Nat)
  slots : Array Node
  aliases : Nat

abbrev ComposeM := StateT Composer (Except String)

def scan {α : Type} (m : ScanM α) : ComposeM α := do
  let c ← get
  match m.run c.stream with
  | .ok (a, stream) =>
    set { c with stream }
    return a
  | .error p => throw p.message

def peek : ComposeM Token := scan peekToken

def take : ComposeM Unit := scan takeToken

def parserError {α : Type} (context mark : Mark) (text : String) : ComposeM α :=
  throw (Problem.message ⟨.parser, context, mark, text⟩)

/-- The properties written before a node and where the node starts. -/
structure Props where
  anchor : Option String
  tag : String
  start : Mark

def writtenTag? (tag : String) : Option String :=
  if tag == "" || tag == "!" then none else some (shortTag tag)

/-- The tag of a scalar: the one written; else a quoted or block scalar is a string, a plain
`<<` a merge key, and any other plain scalar what its text resolves to. -/
def scalarTag (tag value : String) (style : ScalarStyle) : String :=
  match writtenTag? tag with
  | some t => t
  | none => if style != .plain then strTag else if value == "<<" then mergeTag else (resolveText "" value).1

def collectionTag (tag kind : String) : String := (writtenTag? tag).getD kind

def emptyAt (m : Mark) : Node := .scalar nullTag "" .plain (m.line + 1)

def openAnchor (anchor : Option String) : ComposeM (Option Nat) := do
  match anchor with
  | none => return none
  | some name =>
    let c ← get
    let slot := c.slots.size
    set { c with slots := c.slots.push default, names := (name, slot) :: c.names }
    return some slot

def closeAnchor (slot : Option Nat) (n : Node) : ComposeM Node := do
  if let some i := slot then modify fun c => { c with slots := c.slots.setIfInBounds i n }
  return n

def scalarNode (p : Props) (value : String) (style : ScalarStyle) : ComposeM Node := do
  let slot ← openAnchor p.anchor
  closeAnchor slot (.scalar (scalarTag p.tag value style) value style (p.start.line + 1))

def aliasNode (name : String) (start : Mark) : ComposeM Node := do
  let c ← get
  match c.names.find? (·.1 == name) with
  | none => throw ("yaml: unknown anchor '" ++ name ++ "' referenced")
  | some (_, slot) =>
    set { c with aliases := c.aliases + 1 }
    return .alias name slot c.aliases (start.line + 1)

def fullTag (start tagMark : Mark) (handle suffix : String) : ComposeM String := do
  if handle.isEmpty then return suffix
  match (← get).directives.find? (·.1 == handle) with
  | some (_, pfx) => return pfx ++ suffix
  | none => parserError start tagMark "found undefined tag handle"

/-- Reads the properties before a node, starting at token `t`; gives them and the token after. -/
def properties (t : Token) : ComposeM (Props × Token) := do
  match t.kind with
  | .anchor name =>
    take
    let t2 ← peek
    match t2.kind with
    | .tag h s =>
      take
      let next ← peek
      return (⟨some name, ← fullTag t.start t2.start h s, t.start⟩, next)
    | _ => return (⟨some name, "", t.start⟩, t2)
  | .tag h s =>
    take
    let t2 ← peek
    match t2.kind with
    | .anchor name =>
      take
      let next ← peek
      return (⟨some name, ← fullTag t.start t.start h s, t.start⟩, next)
    | _ => return (⟨none, ← fullTag t.start t.start h s, t.start⟩, t2)
  | _ => return (⟨none, "", t.start⟩, t)

def endsBlockEntry (k : TokenKind) : Bool := k == .key || k == .value || k == .blockEnd

mutual

/-- Reads a node; `block` allows block collections, `indentless` a sequence of `-` entries at
the indentation of the mapping it is a value of. -/
def node : Nat → Bool → Bool → ComposeM Node
  | 0, _, _ => throw "yaml: document nested too deeply"
  | fuel + 1, block, indentless => do
    let t ← peek
    if let .alias name := t.kind then
      take
      return ← aliasNode name t.start
    let (p, t) ← properties t
    if indentless && t.kind == .blockEntry then
      let slot ← openAnchor p.anchor
      let items ← indentlessItems fuel []
      return ← closeAnchor slot (.sequence (collectionTag p.tag seqTag) items (p.start.line + 1))
    match t.kind with
    | .scalar text style =>
      take
      scalarNode p text style
    | .flowSequenceStart =>
      take
      let slot ← openAnchor p.anchor
      let items ← flowItems fuel t.start true []
      closeAnchor slot (.sequence (collectionTag p.tag seqTag) items (p.start.line + 1))
    | .flowMappingStart =>
      take
      let slot ← openAnchor p.anchor
      let pairs ← flowPairs fuel t.start true []
      closeAnchor slot (.mapping (collectionTag p.tag mapTag) pairs (p.start.line + 1))
    | .blockSequenceStart =>
      if block then
        take
        let slot ← openAnchor p.anchor
        let items ← blockItems fuel t.start []
        closeAnchor slot (.sequence (collectionTag p.tag seqTag) items (p.start.line + 1))
      else emptyOrFail p t
    | .blockMappingStart =>
      if block then
        take
        let slot ← openAnchor p.anchor
        let pairs ← blockPairs fuel t.start []
        closeAnchor slot (.mapping (collectionTag p.tag mapTag) pairs (p.start.line + 1))
      else emptyOrFail p t
    | _ => emptyOrFail p t

def emptyOrFail (p : Props) (t : Token) : ComposeM Node :=
  if p.anchor.isSome || p.tag != "" then scalarNode p "" .plain
  else parserError p.start t.start "did not find expected node content"

/-- Reads the entries of a block sequence up to its end. -/
def blockItems : Nat → Mark → List Node → ComposeM (List Node)
  | 0, _, acc => pure acc
  | fuel + 1, ctx, acc => do
    let t ← peek
    match t.kind with
    | .blockEntry =>
      take
      let next ← peek
      let item ← if next.kind != .blockEntry && next.kind != .blockEnd then node fuel true false
        else pure (emptyAt t.stop)
      blockItems fuel ctx (acc ++ [item])
    | .blockEnd =>
      take
      pure acc
    | _ => parserError ctx t.start "did not find expected '-' indicator"

/-- Reads the `-` entries of a sequence at the indentation of its mapping. -/
def indentlessItems : Nat → List Node → ComposeM (List Node)
  | 0, acc => pure acc
  | fuel + 1, acc => do
    let t ← peek
    if t.kind == .blockEntry then
      take
      let next ← peek
      let item ← if next.kind != .blockEntry && !endsBlockEntry next.kind then node fuel true false
        else pure (emptyAt t.stop)
      indentlessItems fuel (acc ++ [item])
    else pure acc

/-- Reads the pairs of a block mapping up to its end. -/
def blockPairs : Nat → Mark → List (Node × Node) → ComposeM (List (Node × Node))
  | 0, _, acc => pure acc
  | fuel + 1, ctx, acc => do
    let t ← peek
    match t.kind with
    | .key =>
      take
      let next ← peek
      let k ← if !endsBlockEntry next.kind then node fuel true true else pure (emptyAt t.stop)
      let t3 ← peek
      let v ←
        if t3.kind == .value then do
          take
          let next ← peek
          if !endsBlockEntry next.kind then node fuel true true else pure (emptyAt t3.stop)
        else pure (emptyAt t3.start)
      blockPairs fuel ctx (acc ++ [(k, v)])
    | .blockEnd =>
      take
      pure acc
    | _ => parserError ctx t.start "did not find expected key"

/-- Reads the entries of a flow sequence up to `]`; an entry `key: value` is a mapping of one
pair. -/
def flowItems : Nat → Mark → Bool → List Node → ComposeM (List Node)
  | 0, _, _, acc => pure acc
  | fuel + 1, ctx, first, acc => do
    let t ← peek
    if t.kind == .flowSequenceEnd then
      take
      return acc
    let t ←
      if first then pure t
      else if t.kind == .flowEntry then do
        take
        peek
      else parserError ctx t.start "did not find expected ',' or ']'"
    if t.kind == .flowSequenceEnd then
      take
      return acc
    if t.kind == .key then
      take
      let next ← peek
      let k ←
        if next.kind != .value && next.kind != .flowEntry && next.kind != .flowSequenceEnd then
          node fuel false false
        else do
          take
          pure (emptyAt next.stop)
      let t3 ← peek
      let v ←
        if t3.kind == .value then do
          take
          let next ← peek
          if next.kind != .flowEntry && next.kind != .flowSequenceEnd then node fuel false false
          else pure (emptyAt t3.start)
        else pure (emptyAt t3.start)
      flowItems fuel ctx false (acc ++ [.mapping mapTag [(k, v)] (t.start.line + 1)])
    else
      let item ← node fuel false false
      flowItems fuel ctx false (acc ++ [item])

/-- Reads the pairs of a flow mapping up to `}`; a key without `:` has an empty value. -/
def flowPairs : Nat → Mark → Bool → List (Node × Node) → ComposeM (List (Node × Node))
  | 0, _, _, acc => pure acc
  | fuel + 1, ctx, first, acc => do
    let t ← peek
    if t.kind == .flowMappingEnd then
      take
      return acc
    let t ←
      if first then pure t
      else if t.kind == .flowEntry then do
        take
        peek
      else parserError ctx t.start "did not find expected ',' or '\x7d'"
    if t.kind == .flowMappingEnd then
      take
      return acc
    if t.kind == .key then
      take
      let next ← peek
      let k ←
        if next.kind != .value && next.kind != .flowEntry && next.kind != .flowMappingEnd then
          node fuel false false
        else pure (emptyAt next.start)
      let t3 ← peek
      let v ←
        if t3.kind == .value then do
          take
          let next ← peek
          if next.kind != .flowEntry && next.kind != .flowMappingEnd then node fuel false false
          else pure (emptyAt next.start)
        else pure (emptyAt t3.start)
      flowPairs fuel ctx false (acc ++ [(k, v)])
    else
      let k ← node fuel false false
      let next ← peek
      flowPairs fuel ctx false (acc ++ [(k, emptyAt next.start)])

end

def defaultDirectives : List (String × String) := [("!", "!"), ("!!", longTagPrefix)]

/-- Reads the directives before a document; only `%YAML 1.1` is accepted, once. -/
def readDirectives : Nat → Bool → ComposeM Unit
  | 0, _ => pure ()
  | fuel + 1, seenVersion => do
    let t ← peek
    match t.kind with
    | .versionDirective major minor =>
      if seenVersion then parserError Mark.origin t.start "found duplicate %YAML directive"
      if major != 1 || minor != 1 then parserError Mark.origin t.start "found incompatible YAML document"
      take
      readDirectives fuel true
    | .tagDirective handle pfx =>
      if (← get).directives.any (·.1 == handle) then
        parserError Mark.origin t.start "found duplicate %TAG directive"
      modify fun c => { c with directives := c.directives ++ [(handle, pfx)] }
      take
      readDirectives fuel seenVersion
    | _ =>
      modify fun c => { c with
        directives := c.directives ++ defaultDirectives.filter fun d => !c.directives.any (·.1 == d.1) }

def endsDocument (k : TokenKind) : Bool :=
  match k with
  | .versionDirective .. | .tagDirective .. | .documentStart | .documentEnd | .streamEnd => true
  | _ => false

/-- Reads the first document of the stream: none for an empty stream. -/
def readDocument (fuel : Nat) : ComposeM (Option Node) := do
  let _ ← peek
  take
  let t ← peek
  match t.kind with
  | .streamEnd => return none
  | .versionDirective .. | .tagDirective .. | .documentStart =>
    readDirectives fuel false
    let t ← peek
    if t.kind != .documentStart then parserError Mark.origin t.start "did not find expected <document start>"
    take
    let t ← peek
    let root ← if endsDocument t.kind then pure (emptyAt t.start) else node fuel true false
    let _ ← peek
    return some root
  | _ =>
    readDirectives fuel false
    let root ← node fuel true false
    let _ ← peek
    return some root

def Document.ofString (text : String) : Except String Document :=
  let s := TokenStream.ofString (if text.isEmpty then "\n" else text)
  match (readDocument (8 * s.text.size + 64)).run ⟨s, [], [], #[], 0⟩ with
  | .ok (root, c) => .ok ⟨root, c.slots, s.text.size⟩
  | .error e => .error e

end Bonding.Yaml

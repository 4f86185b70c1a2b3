import Bonding.Yaml.Node
import Bonding.Text.Quoted
import Bonding.Text.Utf8
import Bonding.Json.Value

/-!
Decoding a YAML document into a mapping of strings to values, and the JSON text of values.

A node decodes to a target: the mapping of strings a document fills, a string (a key of such a
mapping), or a value of any kind. A mapping whose keys are not all strings decodes to a mapping
with keys of any kind. A node of the wrong kind for its target is a type error: type errors are
collected and reported together, and decoding goes on. Two keys of a mapping with the same kind
and text are an error. Merge keys `<<` bring in the pairs of other mappings, the mapping's own
keys and the earlier sources winning. An alias decodes as the node it names; one inside its own
node is an error, and so is a document whose decoding is mostly aliases.

JSON has no mappings with keys of any kind, no NaN and no infinities: those are errors there.
-/

namespace Bonding.Yaml

/-- What a node decodes to. -/
inductive Target where
  /-- the mapping of strings to values a document decodes into -/
  | root
  /-- a string, as a key of a mapping of strings -/
  | text
  /-- a value of any kind -/
  | any
  deriving DecidableEq

def Target.typeName : Target → String
  | .root => "map[string]interface {}"
  | .text => "string"
  | .any => "interface {}"

/-- The state of decoding: the type errors so far, the counts of nodes and of nodes decoded
through aliases, the aliases being decoded, and the keys a merge must not replace. -/
structure Decoding where
  errors : List String
  decodes : Nat
  aliased : Nat
  active : List Nat
  merged : Option (List Value)

abbrev DecodeM := ReaderT Document (StateT Decoding (Except String))

def stop {α : Type} (msg : String) : DecodeM α := throw ("yaml: " ++ msg)

/-- Whether two values are the same key: of one kind and equal; NaN equals nothing, the two
zeros are equal, and timestamps are equal as `Timestamp.sameKey` says. -/
def Value.sameKey : Value → Value → Bool
  | .null, .null => true
  | .bool a, .bool b => a == b
  | .int a, .int b => a == b
  | .float a, .float b => a == b || (a.m == 0 && b.m == 0)
  | .infinity a, .infinity b => a == b
  | .str a, .str b => a == b
  | .time a, .time b => a.sameKey b
  | _, _ => false

def Value.isCollection : Value → Bool
  | .seq _ | .strMap _ | .anyMap _ => true
  | _ => false

def Value.typeName : Value → String
  | .seq _ => "[]interface {}"
  | .strMap _ => "map[string]interface {}"
  | .anyMap _ => "map[interface {}]interface {}"
  | _ => "interface {}"

mutual

/-- A value as source text: strings quoted, collections with their type and elements. -/
def Value.sourceText : Value → String
  | .null => "interface {}(nil)"
  | .bool b => toString b
  | .int i => toString i
  | .float x => Binary64.render Binary64.generalLayout x
  | .nan => "NaN"
  | .infinity neg => if neg then "-Inf" else "+Inf"
  | .str s => quoteLiteral s
  | .time t => t.sourceText
  | .seq items => "[]interface {}\x7b" ++ Value.sourceItems items ++ "\x7d"
  | .strMap ms => "map[string]interface {}\x7b" ++ Value.sourceMembers ms ++ "\x7d"
  | .anyMap ms => "map[interface {}]interface {}\x7b" ++ Value.sourcePairs ms ++ "\x7d"

def Value.sourceItems : List Value → String
  | [] => ""
  | [v] => v.sourceText
  | v :: vs => v.sourceText ++ ", " ++ Value.sourceItems vs

def Value.sourceMembers : List (String × Value) → String
  | [] => ""
  | [(k, v)] => quoteLiteral k ++ ":" ++ v.sourceText
  | (k, v) :: ms => quoteLiteral k ++ ":" ++ v.sourceText ++ ", " ++ Value.sourceMembers ms

def Value.sourcePairs : List (Value × Value) → String
  | [] => ""
  | [(k, v)] => k.sourceText ++ ":" ++ v.sourceText
  | (k, v) :: ms => k.sourceText ++ ":" ++ v.sourceText ++ ", " ++ Value.sourcePairs ms

end

def base64Value (c : Char) : Option Nat :=
  if 'A' ≤ c && c ≤ 'Z' then some (c.toNat - 'A'.toNat)
  else if 'a' ≤ c && c ≤ 'z' then some (c.toNat - 'a'.toNat + 26)
  else if c.isDigit then some (c.toNat - '0'.toNat + 52)
  else if c == '+' then some 62
  else if c == '/' then some 63
  else none

/-- The bytes of base64 text in groups of four characters, with `=` padding the last group. -/
def base64Bytes : List Char → Option (List Nat)
  | [] => some []
  | a :: b :: c :: d :: rest => do
    let va ← base64Value a
    let vb ← base64Value b
    if c == '=' && d == '=' then
      if rest.isEmpty then some [(va * 4 + vb / 16) % 256] else none
    else
      let vc ← base64Value c
      if d == '=' then
        if rest.isEmpty then some [(va * 4 + vb / 16) % 256, (vb * 16 + vc / 4) % 256] else none
      else
        let vd ← base64Value d
        let tail ← base64Bytes rest
        some ([(va * 4 + vb / 16) % 256, (vb * 16 + vc / 4) % 256, (vc * 64 + vd) % 256] ++ tail)
  | _ => none

def base64Text (s : String) : Option String :=
  (base64Bytes (s.toList.filter fun c => c != '\r' && c != '\n')).map fun bs =>
    String.ofList (Utf8.decodeLossy bs)

/-- Whether decoding `d` nodes of which `a` came through aliases is mostly aliases: more than
99% of a small document, down to 10% of a very large one. -/
def excessiveAliasing (a d : Nat) : Bool :=
  a > 100 && d > 1000 &&
    (if d ≤ 400000 then a * 100 > 99 * d
     else if d ≥ 4000000 then a * 10 > d
     else a * 360000000 > d * (392000000 - 89 * d))

def countNode : DecodeM Unit := do
  modify fun s => { s with
    decodes := s.decodes + 1
    aliased := if s.active.isEmpty then s.aliased else s.aliased + 1 }
  let s ← get
  if excessiveAliasing s.aliased s.decodes then stop "document contains excessive aliasing"

/-- Records a type error: a node that its target cannot hold. -/
def typeError (n : Node) (tag : String) (target : Target) : DecodeM Unit := do
  let tag := if n.tag != "" then n.tag else tag
  let v := n.text
  let shown :=
    if tag == seqTag || tag == mapTag then v
    else
      let bytes := v.toUTF8.toList.map (·.toNat)
      if bytes.length > 10 then " `" ++ String.ofList (Utf8.decodeLossy (bytes.take 7)) ++ "...`"
      else " `" ++ v ++ "`"
  let msg := "line " ++ toString n.line ++ ": cannot unmarshal " ++ shortTag tag ++ shown ++ " into " ++ target.typeName
  modify fun s => { s with errors := s.errors ++ [msg] }

def duplicateKeys (pairs : List (Node × Node)) : DecodeM Bool := do
  let keys := pairs.map (·.1)
  let found := (keys.zipIdx.map fun (a, i) => (keys.drop (i + 1)).filterMap fun b =>
    if a.sameKey b then
      some ("line " ++ toString b.line ++ ": mapping key " ++ quoteLiteral b.text ++ " already defined at line " ++ toString a.line)
    else none).flatten
  modify fun s => { s with errors := s.errors ++ found }
  return !found.isEmpty

/-- The tag and value of a scalar; an explicit tag it does not fit stops decoding. -/
def scalarValue (tag value : String) : DecodeM (String × Value) := do
  if tag == strTag then return (strTag, .str value)
  match resolve tag value with
  | .error e => stop e
  | .ok (t, v) =>
    if t == binaryTag then
      match base64Text value with
      | some s => return (t, .str s)
      | none => stop "!!binary value contains invalid base64 data"
    else return (t, v)

def isMergeKey : Node → Bool
  | .scalar t "<<" _ _ => t == "" || t == "!" || shortTag t == mergeTag
  | _ => false

/-- A mapping being filled: whether its keys are strings, its pairs, and whether it was made
for this mapping. -/
structure MapOut where
  stringKeys : Bool
  entries : List (Value × Value)
  fresh : Bool

def MapOut.insert (m : MapOut) (k v : Value) : MapOut :=
  if m.entries.any (·.1.sameKey k) then
    { m with entries := m.entries.map fun (k', v') => if k'.sameKey k then (k', v) else (k', v') }
  else { m with entries := m.entries ++ [(k, v)] }

def MapOut.contains (m : MapOut) (k : Value) : Bool := m.entries.any (·.1.sameKey k)

def MapOut.value (m : MapOut) : Value :=
  if m.stringKeys then
    .strMap (m.entries.map fun (k, v) => (match k with | .str s => s | _ => "", v))
  else .anyMap m.entries

def wantMap : String := "map merge requires map or sequence of maps as the value"

mutual

/-- Decodes a node to a target: whether it could, and the value. -/
def decode : Nat → Target → Node → DecodeM (Bool × Value)
  | 0, _, _ => stop "document nested too deeply"
  | fuel + 1, target, n => do
    countNode
    match n with
    | .alias name slot id _ =>
      if (← get).active.contains id then stop ("anchor '" ++ name ++ "' value contains itself")
      modify fun s => { s with active := id :: s.active }
      let r ← decode fuel target ((← readThe Document).target slot)
      modify fun s => { s with active := s.active.drop 1 }
      return r
    | .scalar tag value _ _ =>
      let (t, v) ← scalarValue tag value
      match v, target with
      | .null, .text => return (false, .null)
      | .null, _ => return (true, .null)
      | .str s, .text => return (true, .str s)
      | _, .text => return (true, .str value)
      | _, .any => return (true, v)
      | _, .root =>
        typeError n t .root
        return (false, .null)
    | .sequence _ items _ =>
      if target == .any then
        let goods ← decodeItems fuel items
        return (true, .seq goods)
      typeError n seqTag target
      return (false, .null)
    | .mapping _ pairs _ =>
      if ← duplicateKeys pairs then return (false, .null)
      match target with
      | .text =>
        typeError n mapTag .text
        return (false, .null)
      | .root =>
        let out ← fill fuel pairs ⟨true, [], true⟩
        return (true, out.value)
      | .any =>
        let d ← readThe Document
        let stringKeys := pairs.all fun (k, _) => let t := d.tagOf k; t == strTag || t == mergeTag
        let out ← fill fuel pairs ⟨stringKeys, [], true⟩
        return (true, out.value)

def decodeItems : Nat → List Node → DecodeM (List Value)
  | _, [] => pure []
  | 0, _ :: _ => stop "document nested too deeply"
  | fuel + 1, n :: ns => do
    let (ok, v) ← decode fuel .any n
    let rest ← decodeItems fuel ns
    return if ok then v :: rest else rest

/-- Decodes a mapping, or an alias of one, into a mapping being filled. -/
def decodeInto : Nat → Node → MapOut → DecodeM MapOut
  | 0, _, _ => stop "document nested too deeply"
  | fuel + 1, n, out => do
    countNode
    match n with
    | .alias name slot id _ =>
      if (← get).active.contains id then stop ("anchor '" ++ name ++ "' value contains itself")
      modify fun s => { s with active := id :: s.active }
      let r ← decodeInto fuel ((← readThe Document).target slot) out
      modify fun s => { s with active := s.active.drop 1 }
      return r
    | .mapping _ pairs _ =>
      if ← duplicateKeys pairs then return out
      fill fuel pairs { out with fresh := false }
    | _ => return out

/-- Fills a mapping with pairs, then with what a merge key brings in. -/
def fill : Nat → List (Node × Node) → MapOut → DecodeM MapOut
  | 0, _, _ => stop "document nested too deeply"
  | fuel + 1, pairs, out => do
    let saved := (← get).merged
    modify fun s => { s with merged := none }
    let (out, merged, source) ← fillPairs fuel pairs out saved none
    modify fun s => { s with merged }
    match source with
    | some m => mergeFrom fuel pairs m out
    | none => return out

/-- Fills a mapping with pairs, skipping keys in `merged` (and adding the others to it); gives
the mapping, the keys and the value of the last merge key. -/
def fillPairs : Nat → List (Node × Node) → MapOut → Option (List Value) → Option Node →
    DecodeM (MapOut × Option (List Value) × Option Node)
  | _, [], out, merged, source => pure (out, merged, source)
  | 0, _ :: _, _, _, _ => stop "document nested too deeply"
  | fuel + 1, (k, v) :: rest, out, merged, source => do
    if isMergeKey k then return ← fillPairs fuel rest out merged (some v)
    let (ok, kv) ← decode fuel (if out.stringKeys then .text else .any) k
    if !ok then return ← fillPairs fuel rest out merged source
    let (skip, merged) ← match merged with
      | some keys =>
        if kv.isCollection then stop ("runtime error: hash of unhashable type " ++ kv.typeName)
        if keys.any (·.sameKey kv) then pure (true, merged) else pure (false, some (keys ++ [kv]))
      | none => pure (false, none)
    if skip then return ← fillPairs fuel rest out merged source
    if kv.isCollection then stop ("invalid map key: " ++ kv.sourceText)
    let (vok, vv) ← decode fuel .any v
    let d ← readThe Document
    let out := if vok || (d.tagOf v == nullTag && (out.fresh || !out.contains kv)) then out.insert kv vv else out
    fillPairs fuel rest out merged source

/-- Brings the pairs of a merge source into a mapping: a mapping, an alias of one, or a
sequence of those. The keys of the mapping itself are not replaced. -/
def mergeFrom : Nat → List (Node × Node) → Node → MapOut → DecodeM MapOut
  | 0, _, _, _ => stop "document nested too deeply"
  | fuel + 1, pairs, source, out => do
    let saved := (← get).merged
    if saved.isNone then
      let keys ← ownKeys fuel pairs
      modify fun s => { s with merged := some keys }
    let d ← readThe Document
    let isMapping (n : Node) : Bool := match n with
      | .mapping .. => true
      | .alias _ slot _ _ => match d.target slot with | .mapping .. => true | _ => false
      | _ => false
    let out ← match source with
      | .mapping .. | .alias .. =>
        if !isMapping source then stop wantMap
        decodeInto fuel source out
      | .sequence _ items _ =>
        if !items.all isMapping then
          -- the sources before the first that is not a mapping are merged first
          let out ← mergeEach fuel (items.takeWhile isMapping) out
          let _ := out
          stop wantMap
        mergeEach fuel items out
      | _ => stop wantMap
    if saved.isNone then modify fun s => { s with merged := none }
    return out

def mergeEach : Nat → List Node → MapOut → DecodeM MapOut
  | _, [], out => pure out
  | 0, _ :: _, _ => stop "document nested too deeply"
  | fuel + 1, n :: ns, out => do
    let out ← decodeInto fuel n out
    mergeEach fuel ns out

def ownKeys : Nat → List (Node × Node) → DecodeM (List Value)
  | _, [] => pure []
  | 0, _ :: _ => stop "document nested too deeply"
  | fuel + 1, (k, _) :: rest => do
    let (ok, kv) ← decode fuel .any k
    let others ← ownKeys fuel rest
    return if ok then kv :: others else others

end

/-- Decodes a document into a mapping of strings; `none` when it is empty or null. Type errors
are reported together. -/
def Document.toStringMap (d : Document) : Except String (Option (List (String × Value))) :=
  match d.root with
  | none => .ok none
  | some root =>
    let fuel := 4 * (d.size + 4) * (d.size + 4)
    match ((decode fuel .root root).run d).run ⟨[], 0, 0, [], none⟩ with
    | .error e => .error e
    | .ok ((ok, v), s) =>
      if !s.errors.isEmpty then .error ("yaml: unmarshal errors:\n  " ++ "\n  ".intercalate s.errors)
      else match ok, v with
        | true, .strMap ms => .ok (some ms)
        | _, _ => .ok none

def readStringMap (text : String) : Except String (Option (List (String × Value))) :=
  Document.ofString text >>= Document.toStringMap

def firstError : List (String × Except String Json) → Except String (List (String × Json))
  | [] => .ok []
  | (k, r) :: rest => do return (k, ← r) :: (← firstError rest)

/-- The name a key takes in a JSON object: a string as it is, and any other scalar as the text
of its JSON value. -/
def Value.keyName : Value → String
  | .null => "null"
  | .bool b => toString b
  | .int i => toString i
  | .float x => x.toJsonText
  | .nan => "NaN"
  | .infinity neg => if neg then "-Inf" else "+Inf"
  | .str s => s
  | .time t => t.instant.rfc3339Nano
  | v => v.typeName

mutual

/-- The JSON of a value, keys in sorted order; the first error in that order wins. A mapping
with keys of any kind names each key by its text. -/
def Value.toJson : Value → Except String Json
  | .null => .ok .null
  | .bool b => .ok (.bool b)
  | .int i => .ok (.num (toString i))
  | .float x => .ok (.num x.toJsonText)
  | .nan => .error "json: unsupported value: NaN"
  | .infinity neg => .error ("json: unsupported value: " ++ if neg then "-Inf" else "+Inf")
  | .str s => .ok (.str s)
  | .time t => do return .str (← t.jsonText)
  | .seq items => do return .arr (← Value.itemsJson items)
  | .strMap ms => do
    return .obj (← firstError ((Value.membersJson ms).mergeSort fun a b => a.1 < b.1))
  | .anyMap ms => do
    return .obj (← firstError ((Value.pairsJson ms).mergeSort fun a b => a.1 < b.1))

def Value.itemsJson : List Value → Except String (List Json)
  | [] => .ok []
  | v :: vs => do return (← v.toJson) :: (← Value.itemsJson vs)

def Value.pairsJson : List (Value × Value) → List (String × Except String Json)
  | [] => []
  | (k, v) :: ms => (k.keyName, v.toJson) :: Value.pairsJson ms

def Value.membersJson : List (String × Value) → List (String × Except String Json)
  | [] => []
  | (k, v) :: ms => (k, v.toJson) :: Value.membersJson ms

end

end Bonding.Yaml

/-!
Accept headers and the choice of a metrics exposition format. A header is a list of media
ranges separated by commas, each a type and subtype (or `*` alone) followed by parameters after
semicolons; a range of another shape is dropped. The quality `q` is read as a floating-point
literal and is zero when it is not one; other parameters keep their text, and a later one of a
name wins. The ranges are ordered by insertion, moving a range ahead of its neighbour while it
has a higher quality or a type or subtype that is not `*` where the neighbour has `*`.

The first range that names a protocol buffer encoding of metric families, or plain text of
version 0.0.4 or of no version, decides the format; plain text is the default. The escaping
scheme is the last known one among the ranges looked at, `values` when there is none.
-/

namespace Bonding.Web

/-- A quality: a rational number, compared exactly. -/
structure Quality where
  num : Int
  den : Nat
  deriving DecidableEq, Repr

def Quality.higher (a b : Quality) : Bool := a.num * b.den > b.num * a.den

def Quality.one : Quality := ⟨1, 1⟩

def Quality.zero : Quality := ⟨0, 1⟩

def digitsValue (ds : List Char) : Nat := ds.foldl (fun n c => n * 10 + (c.toNat - 48)) 0

/-- Reads a floating-point literal: an optional sign, digits with an optional fraction, and an
optional exponent, or an infinity; `none` when the text is none of these. -/
def Quality.read? (s : String) : Option Quality :=
  let (neg, body) := match s.toList with
    | '-' :: r => (true, r)
    | '+' :: r => (false, r)
    | r => (false, r)
  let sign (q : Quality) : Quality := if neg then ⟨-q.num, q.den⟩ else q
  let word := String.ofList (body.map Char.toLower)
  if word == "inf" || word == "infinity" then some (sign ⟨Int.pow 10 60, 1⟩) else
  let whole := body.takeWhile Char.isDigit
  let rest := body.dropWhile Char.isDigit
  let (frac, rest) := match rest with
    | '.' :: r => (r.takeWhile Char.isDigit, r.dropWhile Char.isDigit)
    | r => ([], r)
  if whole.isEmpty && frac.isEmpty then none else
  let exponent : Option Int := match rest with
    | [] => some 0
    | e :: r =>
      if e != 'e' && e != 'E' then none else
      let (eneg, ds) := match r with
        | '-' :: t => (true, t)
        | '+' :: t => (false, t)
        | t => (false, t)
      if ds.isEmpty || !ds.all Char.isDigit then none
      else some (if eneg then -(digitsValue ds : Int) else digitsValue ds)
  exponent.map fun (e : Int) =>
    let mantissa := digitsValue (whole ++ frac)
    let e : Int := e - frac.length
    sign (if e ≥ 0 then ⟨mantissa * Nat.pow 10 e.toNat, 1⟩ else ⟨mantissa, Nat.pow 10 (-e).toNat⟩)

/-- A media range: type, subtype, quality and parameters in the order given. -/
structure MediaRange where
  type : String
  subtype : String
  quality : Quality
  params : List (String × String)
  deriving Repr

def MediaRange.param (r : MediaRange) (name : String) : String :=
  ((r.params.filter (·.1 == name)).getLast?.map (·.2)).getD ""

def trimSpaces (s : String) : String :=
  String.ofList ((s.toList.dropWhile (· == ' ')).reverse.dropWhile (· == ' ')).reverse

/-- Reads one media range, with its parameters; `none` when its type is not `*` or a type and
subtype. -/
def MediaRange.read? (part : String) : Option MediaRange :=
  match (trimSpaces part).splitOn ";" with
  | [] => none
  | range :: params =>
    let sub := match range.splitOn "/" with
      | [t] => if trimSpaces t == "*" then some ("*", "*") else none
      | [t, u] => some (trimSpaces t, trimSpaces u)
      | _ => none
    sub.map fun (t, u) =>
      params.foldl (fun (r : MediaRange) p =>
        match p.splitOn "=" with
        | [] | [_] => r
        | k :: vs =>
          let v := "=".intercalate vs
          if trimSpaces k == "q" then { r with quality := (Quality.read? v).getD .zero }
          else { r with params := r.params ++ [(trimSpaces k, trimSpaces v)] })
        ⟨t, u, .one, []⟩

/-- Whether a range goes ahead of another: a higher quality, or a type or subtype that is not
`*` where the other has `*`. -/
def MediaRange.ahead (a b : MediaRange) : Bool :=
  a.quality.higher b.quality || (a.type != "*" && b.type == "*") || (a.subtype != "*" && b.subtype == "*")

def insertBack {α : Type} (ahead : α → α → Bool) (x : α) : List α → List α
  | [] => [x]
  | y :: ys => if ahead x y then y :: insertBack ahead x ys else x :: y :: ys

theorem insertBack_length {α : Type} (ahead : α → α → Bool) (x : α) (ys : List α) :
    (insertBack ahead x ys).length = ys.length + 1 := by
  induction ys with
  | nil => rfl
  | cons y ys ih => unfold insertBack; split <;> simp [ih]

/-- Orders a list by insertion: each element moves ahead of its neighbours while it goes ahead
of them. -/
def insertionOrder {α : Type} (ahead : α → α → Bool) (xs : List α) : List α :=
  (xs.foldl (fun acc x => insertBack ahead x acc) []).reverse

def accepted (header : String) : List MediaRange :=
  insertionOrder MediaRange.ahead ((header.splitOn ",").filterMap MediaRange.read?)

/-- The encodings of a metrics exposition. -/
inductive ExpositionFormat where
  /-- the text format, version 0.0.4 -/
  | text
  /-- protocol buffer messages, each after its length -/
  | delimited
  /-- the protocol buffer text form -/
  | protoText
  /-- the protocol buffer text form on one line a family -/
  | compactText
  deriving DecidableEq, Repr

/-- An exposition format with the escaping scheme of its names. -/
structure Exposition where
  format : ExpositionFormat
  escaping : String
  deriving DecidableEq, Repr

def protoType : String := "application/vnd.google.protobuf; proto=io.prometheus.client.MetricFamily;"

def Exposition.contentType (e : Exposition) : String :=
  let base := match e.format with
    | .text => "text/plain; version=0.0.4; charset=utf-8"
    | .delimited => protoType ++ " encoding=delimited"
    | .protoText => protoType ++ " encoding=text"
    | .compactText => protoType ++ " encoding=compact-text"
  base ++ "; escaping=" ++ e.escaping

def escapingSchemes : List String := ["allow-utf-8", "underscores", "dots", "values"]

/-- The format a range asks for, if it names one. -/
def MediaRange.format? (r : MediaRange) : Option ExpositionFormat :=
  if r.type ++ "/" ++ r.subtype == "application/vnd.google.protobuf" &&
      r.param "proto" == "io.prometheus.client.MetricFamily" then
    match r.param "encoding" with
    | "delimited" => some .delimited
    | "text" => some .protoText
    | "compact-text" => some .compactText
    | _ => none
  else if r.type == "text" && r.subtype == "plain" &&
      (r.param "version" == "0.0.4" || r.param "version" == "") then some .text
  else none

def chooseExposition (escaping : String) : List MediaRange → Exposition
  | [] => ⟨.text, escaping⟩
  | r :: rs =>
    let escaping := if escapingSchemes.contains (r.param "escaping") then r.param "escaping" else escaping
    match r.format? with
    | some f => ⟨f, escaping⟩
    | none => chooseExposition escaping rs

def negotiate (header : String) : Exposition := chooseExposition "values" (accepted header)

end Bonding.Web

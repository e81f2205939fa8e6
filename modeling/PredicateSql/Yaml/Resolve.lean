import PredicateSql.Time
import PredicateSql.Decimal.Read

/-! What a YAML scalar means. An untagged plain scalar resolves by its text to a boolean, null, a
timestamp, an integer or a float, and otherwise, like every quoted scalar, to a string. An
explicit tag asks for one of these readings and refuses a text that reads otherwise. -/
namespace PredicateSql.Yaml

/-- The reading of a scalar. -/
inductive Scalar where
  | null
  | bool (b : Bool)
  /-- An integer within the signed 64-bit range. -/
  | int (n : Int)
  /-- An integer above the signed 64-bit range and within the unsigned one. -/
  | uint (n : Nat)
  | float (x : Float)
  | timestamp (t : Time.Instant)
  | str (s : String)
  deriving Inhabited

def standardPrefix : String := "tag:yaml.org,2002:"

/-- A tag in its short form: standard tags as `!!name`. -/
def shortTag (tag : String) : String :=
  if tag.startsWith standardPrefix then "!!" ++ (tag.drop standardPrefix.length).toString else tag

/-- The tags whose scalars are read by their text. -/
def resolvable (tag : String) : Bool :=
  tag == "" || tag == "!!str" || tag == "!!bool" || tag == "!!int" || tag == "!!float" ||
    tag == "!!null" || tag == "!!timestamp"

/-- The words with a fixed reading. -/
def fixedWord (s : String) : Option (String × Scalar) :=
  if s == "true" || s == "True" || s == "TRUE" then some ("!!bool", .bool true)
  else if s == "false" || s == "False" || s == "FALSE" then some ("!!bool", .bool false)
  else if s == "" || s == "~" || s == "null" || s == "Null" || s == "NULL" then some ("!!null", .null)
  else if s == ".nan" || s == ".NaN" || s == ".NAN" then some ("!!float", .float (0.0 / 0.0))
  else if s == ".inf" || s == ".Inf" || s == ".INF" || s == "+.inf" || s == "+.Inf" || s == "+.INF" then
    some ("!!float", .float (1.0 / 0.0))
  else if s == "-.inf" || s == "-.Inf" || s == "-.INF" then some ("!!float", .float (-1.0 / 0.0))
  else none

/-- How the first character of a text steers its reading: `S` a sign, `D` a digit, `M` the start
of a fixed word, `.` a point; none of these reads as a string at once. -/
def hint (s : String) : Option Char :=
  match s.toList with
  | [] => some 'N'
  | c :: _ =>
    if c = '+' || c = '-' then some 'S'
    else if c.isDigit then some 'D'
    else if "yYnNtTfFoO~".contains c then some 'M'
    else if c = '.' then some '.'
    else none

/-- The value of a digit in bases up to 36. -/
def digitValue (c : Char) : Option Nat :=
  let l := c.toLower
  if c.isDigit then some (c.toNat - 48)
  else if 'a' ≤ l && l ≤ 'z' then some (l.toNat - 87)
  else none

/-- Digits in a base, each below it; at least none. -/
def digitsValue (base : Nat) : List Char → Option Nat
  | [] => some 0
  | cs => cs.foldlM (fun acc c => do
      let d ← digitValue c
      if d < base then some (acc * base + d) else none) 0

/-- An unsigned 64-bit integer; base 0 reads a `0b`, `0o` or `0x` prefix, or a leading `0` as
octal. -/
def parseUnsigned (s : String) (base : Nat) : Option Nat := do
  let cs := s.toList
  if cs.isEmpty then none
  let (b, ds) : Nat × List Char :=
    if base != 0 then (base, cs)
    else match cs with
      | '0' :: x :: rest =>
        if rest.length ≥ 1 && (x = 'b' || x = 'B') then (2, rest)
        else if rest.length ≥ 1 && (x = 'o' || x = 'O') then (8, rest)
        else if rest.length ≥ 1 && (x = 'x' || x = 'X') then (16, rest)
        else (8, x :: rest)
      | '0' :: [] => (8, [])
      | _ => (10, cs)
  let n ← digitsValue b ds
  if n < Nat.pow 2 64 then some n else none

/-- A signed 64-bit integer with an optional sign. -/
def parseSigned (s : String) (base : Nat) : Option Int := do
  let (neg, rest) := match s.toList with
    | '+' :: r => (false, String.ofList r)
    | '-' :: r => (true, String.ofList r)
    | _ => (false, s)
  let n ← parseUnsigned rest base
  if neg then (if n ≤ Nat.pow 2 63 then some (-(n : Int)) else none)
  else if n < Nat.pow 2 63 then some n else none

/-- A decimal float, refused when it overflows. -/
def parseFloat (s : String) : Option Float := do
  let d ← Decimal.readScientific s
  let x := d.toFloat
  if x.isInf then none else some x

/-- A decimal float whose digits may be grouped by underscores, refused when it overflows. -/
def parseGroupedFloat (s : String) : Option Float := do
  let d ← Decimal.readGrouped s
  let x := d.toFloat
  if x.isInf then none else some x

/-- The reading of a text starting with a sign or a digit. -/
def readNumeric (tag text : String) : Option (String × Scalar) :=
  let timestamp := if tag == "" || tag == "!!timestamp" then Time.parseTimestamp text else none
  match timestamp with
  | some t => some ("!!timestamp", .timestamp t)
  | none =>
    let plain := text.replace "_" ""
    let asInt := fun (i : Int) => some ("!!int", Scalar.int i)
    let asUint := fun (n : Nat) => some ("!!int", Scalar.uint n)
    match parseSigned plain 0 with
    | some i => asInt i
    | none =>
    match parseUnsigned plain 0 with
    | some n => asUint n
    | none =>
    match parseFloat plain with
    | some x => some ("!!float", .float x)
    | none =>
    let withBase := fun (base : Nat) (pre : String) =>
      if plain.startsWith pre then
        let rest := (plain.drop pre.length).toString
        match parseSigned rest base with
        | some i => asInt i
        | none => (parseUnsigned rest base).bind asUint
      else if plain.startsWith ("-" ++ pre) then
        (parseSigned ("-" ++ (plain.drop (pre.length + 1)).toString) base).bind asInt
      else none
    match withBase 2 "0b" with
    | some r => some r
    | none => withBase 8 "0o"

/-- The reading of a scalar under a tag, before the tag is checked. -/
def readText (tag text : String) : String × Scalar :=
  match hint text with
  | none => ("!!str", .str text)
  | some h =>
    if tag == "!!str" || tag == "!!binary" then ("!!str", .str text)
    else match fixedWord text with
      | some r => r
      | none =>
        if h = '.' then
          match parseGroupedFloat text with
          | some x => ("!!float", .float x)
          | none => ("!!str", .str text)
        else if h = 'D' || h = 'S' then (readNumeric tag text).getD ("!!str", .str text)
        else ("!!str", .str text)

/-- The tag and reading of a scalar; an explicit tag the text does not read as is an error. -/
def resolve (tag text : String) : Except String (String × Scalar) :=
  if !resolvable tag then .ok (tag, .str text)
  else
    let (rtag, out) := readText tag text
    if tag == "" || tag == rtag || tag == "!!str" || tag == "!!binary" then .ok (rtag, out)
    else match tag, out with
      | "!!float", .int i => .ok ("!!float", .float (Float.ofInt i))
      | _, _ => .error ("cannot decode " ++ rtag ++ " \x60" ++ text ++ "\x60 as a " ++ tag)

/-- The tag an untagged plain scalar resolves to. -/
def plainTag (text : String) : String :=
  match resolve "" text with
  | .ok (t, _) => t
  | .error _ => "!!str"

example : digitsValue 16 ['1', 'f'] = some 31 := by decide

end PredicateSql.Yaml

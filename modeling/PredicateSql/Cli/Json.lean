import PredicateSql.Value
import PredicateSql.Decimal.Text
import PredicateSql.Text.Bytes

/-! JSON documents as the command line writes them: objects keep their member order, strings
escape control and HTML-sensitive characters, and a document is indented by two spaces a level.
Maps with text keys become objects sorted by key; not-a-number and infinities have no JSON form. -/
namespace PredicateSql.Cli

/-- A JSON value; numbers are kept as their text. -/
inductive Json where
  | null
  | bool (b : Bool)
  | number (text : String)
  | str (s : String)
  | arr (items : List Json)
  | obj (members : List (String × Json))
  deriving Inhabited

namespace Json

/-- Four lower-case hex digits of a character code. -/
def hex4 (n : Nat) : String :=
  let ds := Nat.toDigits 16 n
  String.ofList (List.replicate (4 - ds.length) '0' ++ ds)

/-- One character inside a JSON string. -/
def escapeChar (c : Char) : String :=
  if c = '"' then "\\\""
  else if c = '\\' then "\\\\"
  else if c = '\n' then "\\n"
  else if c = '\r' then "\\r"
  else if c = '\t' then "\\t"
  else if c = '\x08' then "\\b"
  else if c = '\x0c' then "\\f"
  else if c.toNat < 0x20 || c = '<' || c = '>' || c = '&' || c = '\u2028' || c = '\u2029' then
    "\\u" ++ hex4 c.toNat
  else if (Text.strayByte? c).isSome then "\\ufffd"
  else c.toString

/-- A JSON string literal. -/
def quote (s : String) : String := "\"" ++ String.join (s.toList.map escapeChar) ++ "\""

/-- The text of a value, indented from the given depth on. -/
def render : Json → Nat → String
  | null, _ => "null"
  | bool b, _ => toString b
  | number t, _ => t
  | str s, _ => quote s
  | arr [], _ => "[]"
  | arr items, depth =>
    let pad := String.ofList (List.replicate (2 * (depth + 1)) ' ')
    "[\n" ++ ",\n".intercalate (renderItems items (depth + 1) pad) ++ "\n" ++
      String.ofList (List.replicate (2 * depth) ' ') ++ "]"
  | obj [], _ => "\x7b\x7d"
  | obj members, depth =>
    let pad := String.ofList (List.replicate (2 * (depth + 1)) ' ')
    "\x7b\n" ++ ",\n".intercalate (renderMembers members (depth + 1) pad) ++ "\n" ++
      String.ofList (List.replicate (2 * depth) ' ') ++ "\x7d"
where
  /-- Array items, each on its own line. -/
  renderItems : List Json → Nat → String → List String
    | [], _, _ => []
    | x :: xs, d, pad => (pad ++ render x d) :: renderItems xs d pad
  /-- Object members, each on its own line. -/
  renderMembers : List (String × Json) → Nat → String → List String
    | [], _, _ => []
    | (k, v) :: ms, d, pad => (pad ++ quote k ++ ": " ++ render v d) :: renderMembers ms d pad

def document (j : Json) : String := render j 0 ++ "\n"

end Json

/-- A 64-bit float as a JSON number; not-a-number and infinities have none. -/
def floatJson (x : Float) : Except String Json :=
  if x.isNaN || x.isInf then .error ("json: unsupported value: " ++ Decimal.floatText x)
  else .ok (.number (Decimal.bitsText Decimal.binary64 Decimal.json x.toBits.toNat))

mutual

/-- A value as JSON. -/
def Value.toJson : Value → Except String Json
  | .null => .ok .null
  | .bool b => .ok (.bool b)
  | .text s => .ok (.str s)
  | .int _ n => .ok (.number (toString n))
  | .float x => floatJson x
  | .float32 x => floatJson x.toFloat
  | .time t => match t.strictRfc3339 with
    | .ok s => .ok (.str s)
    | .error e => .error ("json: error calling MarshalJSON for type time.Time: Time.MarshalJSON: " ++ e)
  | .list _ items => return .arr (← listJson items)
  | .map es =>
    return .obj ((← membersJson es).mergeSort fun a b => Text.byteLe a.1 b.1)
  | .anyMap _ => .error "json: unsupported type: map[interface \x7b\x7d]interface \x7b\x7d"
  | .nullList | .nullMap | .nullBytes | .nullPointer => .ok .null
  | .pointer v => Value.toJson v
  | v => .ok (.str v.typeName)

/-- The items of a list as JSON. -/
def listJson : List Value → Except String (List Json)
  | [] => .ok []
  | v :: vs => return (← Value.toJson v) :: (← listJson vs)

/-- The members of a map as JSON. -/
def membersJson : List (String × Value) → Except String (List (String × Json))
  | [] => .ok []
  | (k, v) :: rest => return (k, ← Value.toJson v) :: (← membersJson rest)

end

end PredicateSql.Cli

import PredicateSql.Value
import PredicateSql.Text.Quoted
import PredicateSql.Decimal.Text

/-! Values written as typed literals, the way bound parameters are shown on the command line:
texts quoted, unsigned integers in hex, floats in shortest form, times as a date constructor in
their own zone, and lists and maps with their type in front. Map entries are sorted by key; keys
of different types sort by type first, in a fixed order of the types. -/
namespace PredicateSql

namespace Value

/-- The English name of a month. -/
def monthName : Nat → String
  | 1 => "January" | 2 => "February" | 3 => "March" | 4 => "April" | 5 => "May"
  | 6 => "June" | 7 => "July" | 8 => "August" | 9 => "September" | 10 => "October"
  | 11 => "November" | 12 => "December" | m => toString m

/-- A time as a date constructor call: year, month, day, clock, nanoseconds and zone. -/
def timeLiteral (t : Time.Instant) : String :=
  let c := t.civil
  let zone := match t.zone with
    | .utc => "time.UTC"
    | .system => "time.Local"
    | .fixed _ => "time.Location(\"\")"
  "time.Date(" ++ toString c.year ++ ", time." ++ monthName c.month ++ ", " ++ toString c.day ++
    ", " ++ toString c.hour ++ ", " ++ toString c.minute ++ ", " ++ toString c.second ++ ", " ++
    toString t.nanos ++ ", " ++ zone ++ ")"

def hexLiteral (n : Nat) : String := "0x" ++ String.ofList (Nat.toDigits 16 n)

def bytesLiteral (bs : List UInt8) : String := ", ".intercalate (bs.map fun b => hexLiteral b.toNat)

/-- The rank of a map key's type, for ordering keys of different types: null, texts, unsigned
64-bit integers, other integers, floats, booleans, times. -/
def keyRank : Value → Nat
  | null => 0
  | text _ => 1
  | int .uint64 _ => 2
  | int _ _ => 3
  | float _ => 4
  | bool _ => 5
  | time _ => 6
  | _ => 7

/-- The rank of a time's zone among times of one instant: UTC, the machine's zone, a fixed
offset. -/
def zoneRank : Time.Zone → Nat
  | .utc => 0
  | .system => 1
  | .fixed _ => 2

/-- Whether one map key sorts before another: by type, then by value. Texts go by their bytes,
not-a-number comes before every other float, and times go by their nanoseconds, then their
instant, then their zone. -/
def keyLt (a b : Value) : Bool :=
  if keyRank a != keyRank b then keyRank a < keyRank b
  else match a, b with
    | int _ m, int _ n => m < n
    | text s, text t => Text.byteLt s t
    | float x, float y => (x.isNaN && !y.isNaN) || x < y
    | bool x, bool y => !x && y
    | time s, time t =>
      s.nanos < t.nanos || (s.nanos == t.nanos && (s.seconds < t.seconds ||
        (s.seconds == t.seconds && zoneRank s.zone < zoneRank t.zone)))
    | _, _ => false

mutual

/-- A value written as a typed literal. -/
def literal : Value → String
  | null => "<nil>"
  | bool b => toString b
  | text s => Text.quoted s
  | int k n => if k.unsigned then hexLiteral n.toNat else toString n
  | float x => Decimal.floatText x
  | float32 x => Decimal.float32Text x
  | bytes b => "[]byte\x7b" ++ bytesLiteral b ++ "\x7d"
  | nullBytes => "[]byte(nil)"
  | byteArray b => "[" ++ toString b.length ++ "]uint8\x7b" ++ bytesLiteral b ++ "\x7d"
  | uuid b => "uuid.UUID\x7b" ++ bytesLiteral b ++ "\x7d"
  | time t => timeLiteral t
  | textRecord xs => "main.StrList\x7b" ++ ", ".intercalate (xs.map Text.quoted) ++ "\x7d"
  | list s items => typeName (list s items) ++ "\x7b" ++ elements items ++ "\x7d"
  | nullList => "[]interface \x7b\x7d(nil)"
  | pointer v => "(" ++ typeName (pointer v) ++ ")(0xc000012000)"
  | nullPointer => "(*int)(nil)"
  | map es =>
    let sorted := (entryTexts es).mergeSort fun a b => Text.byteLe a.1 b.1
    "map[string]interface \x7b\x7d\x7b" ++
      ", ".intercalate (sorted.map fun (k, v) => Text.quoted k ++ ":" ++ v) ++ "\x7d"
  | nullMap => "map[string]interface \x7b\x7d(nil)"
  | anyMap es =>
    let sorted := (keyedTexts es).mergeSort fun a b => keyLt a.1 b.1 || !keyLt b.1 a.1
    "map[interface \x7b\x7d]interface \x7b\x7d\x7b" ++
      ", ".intercalate (sorted.map fun (_, k, v) => k ++ ":" ++ v) ++ "\x7d"

/-- The elements of a list, an absent element written with its interface type. -/
def elements : List Value → String
  | [] => ""
  | v :: vs =>
    let first := match v with
      | null => "interface \x7b\x7d(nil)"
      | _ => literal v
    match vs with
    | [] => first
    | _ => first ++ ", " ++ elements vs

/-- The keys and written values of a map with text keys. -/
def entryTexts : List (String × Value) → List (String × String)
  | [] => []
  | (k, v) :: rest =>
    (k, match v with
      | null => "interface \x7b\x7d(nil)"
      | _ => literal v) :: entryTexts rest

/-- The keys, written keys and written values of a map with keys of any type. -/
def keyedTexts : List (Value × Value) → List (Value × String × String)
  | [] => []
  | (k, v) :: rest =>
    (k, (match k with
      | null => "interface \x7b\x7d(nil)"
      | _ => literal k), (match v with
      | null => "interface \x7b\x7d(nil)"
      | _ => literal v)) :: keyedTexts rest

end

end Value

end PredicateSql

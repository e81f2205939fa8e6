/-! Instants of time on the proleptic Gregorian calendar: seconds since 1970-01-01T00:00:00Z, a
nanosecond part and the zone the instant is read in. Dates convert to and from day numbers by
era arithmetic (400-year cycles of 146097 days). Texts are read in two forms, RFC 3339 and the
looser form of YAML timestamps, and written in RFC 3339 with as many fraction digits as needed. -/
namespace PredicateSql.Time

/-- The zone an instant is read in. -/
inductive Zone where
  /-- Coordinated universal time. -/
  | utc
  /-- The zone of the machine, which reads as UTC. -/
  | system
  /-- A fixed offset east of UTC, in seconds, without a name. -/
  | fixed (offset : Int)
  deriving DecidableEq, Repr

/-- The offset of a zone east of UTC, in seconds. -/
def Zone.offset : Zone → Int
  | .fixed o => o
  | _ => 0

/-- An instant: whole seconds since the epoch, a nanosecond part below `10^9`, and its zone. -/
structure Instant where
  seconds : Int
  nanos : Nat
  zone : Zone
  deriving DecidableEq, Repr

/-- A calendar date and clock reading. -/
structure Civil where
  year : Int
  month : Nat
  day : Nat
  hour : Nat
  minute : Nat
  second : Nat
  deriving DecidableEq, Repr

/-- The number of days from 1970-01-01 to a date. -/
def daysFromCivil (y : Int) (m d : Nat) : Int :=
  let y := if m ≤ 2 then y - 1 else y
  let era := y / 400
  let yoe := y - era * 400
  let mp : Int := if m > 2 then (m : Int) - 3 else (m : Int) + 9
  let doy := (153 * mp + 2) / 5 + (d : Int) - 1
  let doe := yoe * 365 + yoe / 4 - yoe / 100 + doy
  era * 146097 + doe - 719468

/-- The date of a day number counted from 1970-01-01. -/
def civilFromDays (z : Int) : Int × Nat × Nat :=
  let z := z + 719468
  let era := z / 146097
  let doe := z - era * 146097
  let yoe := (doe - doe / 1460 + doe / 36524 - doe / 146096) / 365
  let doy := doe - (365 * yoe + yoe / 4 - yoe / 100)
  let mp := (5 * doy + 2) / 153
  let d := doy - (153 * mp + 2) / 5 + 1
  let m := if mp < 10 then mp + 3 else mp - 9
  let y := yoe + era * 400
  (if m ≤ 2 then y + 1 else y, m.toNat, d.toNat)

/-- The wall-clock reading of an instant in its own zone. -/
def Instant.civil (t : Instant) : Civil :=
  let s := t.seconds + t.zone.offset
  let days := s / 86400
  let rest := (s - days * 86400).toNat
  let (y, m, d) := civilFromDays days
  ⟨y, m, d, rest / 3600, rest % 3600 / 60, rest % 60⟩

/-- The instant of a wall-clock reading in a zone. -/
def Civil.instant (c : Civil) (nanos : Nat) (zone : Zone) : Instant :=
  let days := daysFromCivil c.year c.month c.day
  ⟨days * 86400 + c.hour * 3600 + c.minute * 60 + c.second - zone.offset, nanos, zone⟩

def Instant.toUtc (t : Instant) : Instant := { t with zone := .utc }

def isLeap (y : Int) : Bool := (y % 4 == 0 && y % 100 != 0) || y % 400 == 0

/-- The number of days of a month. -/
def monthDays (y : Int) (m : Nat) : Nat :=
  match m with
  | 2 => if isLeap y then 29 else 28
  | 4 | 6 | 9 | 11 => 30
  | _ => 31

/-- Decimal digits of `n`, padded with zeros to at least `width`. -/
def padded (width n : Nat) : String :=
  let ds := Nat.toDigits 10 n
  String.ofList (List.replicate (width - ds.length) '0' ++ ds)

/-- The fraction of a second as written after the seconds: nine digits less trailing zeros, and
nothing at all for a whole second. -/
def fractionText (nanos : Nat) : String :=
  if nanos == 0 then ""
  else
    let ds := (Nat.toDigits 10 nanos)
    let ds := List.replicate (9 - ds.length) '0' ++ ds
    let trimmed := (ds.reverse.dropWhile (· == '0')).reverse
    "." ++ String.ofList trimmed

/-- A zone offset as RFC 3339 writes it: `Z` for no offset, else a sign, hours and minutes. -/
def offsetText (offset : Int) : String :=
  if offset == 0 then "Z"
  else
    let sign := if offset < 0 then "-" else "+"
    let a := offset.natAbs / 60
    sign ++ padded 2 (a / 60) ++ ":" ++ padded 2 (a % 60)

/-- The year as written in a date: four digits at least, a minus sign before a negative one. -/
def yearText (y : Int) : String :=
  if y < 0 then "-" ++ padded 4 y.natAbs else padded 4 y.toNat

/-- An instant in RFC 3339 with a fraction of at most nine digits. -/
def Instant.rfc3339 (t : Instant) : String :=
  let c := t.civil
  yearText c.year ++ "-" ++ padded 2 c.month ++ "-" ++ padded 2 c.day ++ "T" ++
    padded 2 c.hour ++ ":" ++ padded 2 c.minute ++ ":" ++ padded 2 c.second ++
    fractionText t.nanos ++ offsetText t.zone.offset

/-- An instant in RFC 3339 as a strict reader takes it: the year must have four digits and the
offset must stay below 24 hours. -/
def Instant.strictRfc3339 (t : Instant) : Except String String :=
  let y := t.civil.year
  if y < 0 || y > 9999 then .error "year outside of range [0,9999]"
  else if t.zone.offset.natAbs / 3600 ≥ 24 then .error "timezone hour outside of range [0,23]"
  else .ok t.rfc3339

/-- An instant as it is displayed by default: date, clock with as many fraction digits as needed,
the offset as a sign with hours and minutes, and the zone's name, which for a fixed offset is the
offset again. -/
def Instant.display (t : Instant) : String :=
  let c := t.civil
  let o := t.zone.offset
  let a := o.natAbs / 60
  let offset := (if o < 0 then "-" else "+") ++ padded 2 (a / 60) ++ padded 2 (a % 60)
  let name := match t.zone with
    | .fixed _ => offset
    | _ => "UTC"
  yearText c.year ++ "-" ++ padded 2 c.month ++ "-" ++ padded 2 c.day ++ " " ++
    padded 2 c.hour ++ ":" ++ padded 2 c.minute ++ ":" ++ padded 2 c.second ++
    fractionText t.nanos ++ " " ++ offset ++ " " ++ name

/-- Reads exactly `n` decimal digits off the front. -/
def takeDigits (n : Nat) (cs : List Char) : Option (Nat × List Char) :=
  let ds := cs.take n
  if ds.length == n && ds.all Char.isDigit then
    some (ds.foldl (fun a c => 10 * a + (c.toNat - 48)) 0, cs.drop n)
  else none

/-- Reads one or two decimal digits off the front, as many as there are. -/
def takeShort (cs : List Char) : Option (Nat × List Char) :=
  match takeDigits 2 cs with
  | some r => some r
  | none => takeDigits 1 cs

/-- A reading is a real date and time of day. -/
def Civil.valid (c : Civil) : Bool :=
  1 ≤ c.month && c.month ≤ 12 && 1 ≤ c.day && c.day ≤ monthDays c.year c.month &&
    c.hour < 24 && c.minute < 60 && c.second < 60

/-- Reads a fraction of a second, `.` or `,` and any number of digits, of which the first nine
count; without a digit after the mark there is none, which is zero. -/
def takeLongFraction : List Char → Nat × List Char
  | c :: d :: cs =>
    if (c = '.' || c = ',') && d.isDigit then
      let ds := (d :: cs).takeWhile Char.isDigit
      let kept := ds.take 9
      (kept.foldl (fun a c => 10 * a + (c.toNat - 48)) 0 * Nat.pow 10 (9 - kept.length),
        (d :: cs).drop ds.length)
    else (0, c :: d :: cs)
  | cs => (0, cs)

/-- Reads a zone: `Z`, or a sign with two-digit hours up to 24 and minutes up to 60. An offset
of zero is the machine's zone, which reads as UTC. -/
def takeOffset : List Char → Option (Zone × List Char)
  | 'Z' :: cs => some (.utc, cs)
  | s :: h1 :: h2 :: ':' :: m1 :: m2 :: cs => do
    let (h, _) ← takeDigits 2 [h1, h2]
    let (m, _) ← takeDigits 2 [m1, m2]
    if h > 24 || m > 60 || !(s = '+' || s = '-') then none
    let o : Int := (h * 60 + m) * 60
    let o := if s = '-' then -o else o
    some (if o == 0 then .system else .fixed o, cs)
  | _ => none

/-- Reads an RFC 3339 instant: a four-digit year, two-digit month, day, minute and second, an
hour of one or two digits after `T`, an optional fraction of any length of which nine digits
count, and `Z` or an offset with hours up to 24 and minutes up to 60. -/
def parseRfc3339 (s : String) : Option Instant := do
  let cs := s.toList
  let (y, cs) ← takeDigits 4 cs
  let cs ← match cs with | '-' :: r => some r | _ => none
  let (mo, cs) ← takeDigits 2 cs
  let cs ← match cs with | '-' :: r => some r | _ => none
  let (d, cs) ← takeDigits 2 cs
  let cs ← match cs with | 'T' :: r => some r | _ => none
  let (h, cs) ← takeShort cs
  let cs ← match cs with | ':' :: r => some r | _ => none
  let (mi, cs) ← takeDigits 2 cs
  let cs ← match cs with | ':' :: r => some r | _ => none
  let (se, cs) ← takeDigits 2 cs
  let (ns, cs) := takeLongFraction cs
  let (z, cs) ← takeOffset cs
  let c : Civil := ⟨y, mo, d, h, mi, se⟩
  if cs.isEmpty && c.valid then some (c.instant ns z) else none

/-- Reads the clock part of a YAML timestamp: one- or two-digit hour, minute and second and an
optional fraction. -/
def takeClock (cs : List Char) : Option ((Nat × Nat × Nat × Nat) × List Char) := do
  let (h, cs) ← takeShort cs
  let cs ← match cs with | ':' :: r => some r | _ => none
  let (mi, cs) ← takeShort cs
  let cs ← match cs with | ':' :: r => some r | _ => none
  let (se, cs) ← takeShort cs
  let (ns, cs) := takeLongFraction cs
  some ((h, mi, se, ns), cs)

/-- Reads a YAML timestamp: a date with a four-digit year and one- or two-digit month and day,
optionally followed by `T`, `t` or a run of blanks and a clock; after `T` or `t` a zone is
required, after blanks none is allowed. Without a zone the instant is in UTC. -/
def parseTimestamp (s : String) : Option Instant := do
  let cs := s.toList
  let (y, cs) ← takeDigits 4 cs
  let cs ← match cs with | '-' :: r => some r | _ => none
  let (mo, cs) ← takeShort cs
  let cs ← match cs with | '-' :: r => some r | _ => none
  let (d, cs) ← takeShort cs
  match cs with
  | [] =>
    let c : Civil := ⟨y, mo, d, 0, 0, 0⟩
    if c.valid then some (c.instant 0 .utc) else none
  | sep :: cs =>
    let zoned := sep = 'T' || sep = 't'
    if !zoned && sep != ' ' then none
    let ((h, mi, se, ns), cs) ← takeClock (if zoned then cs else cs.dropWhile (· = ' '))
    let c : Civil := ⟨y, mo, d, h, mi, se⟩
    let (z, cs) ← if zoned then takeOffset cs else some (.utc, cs)
    if cs.isEmpty && c.valid then some (c.instant ns z) else none

example : daysFromCivil 1970 1 1 = 0 ∧ daysFromCivil 2000 3 1 = 11017 := by decide
example : civilFromDays 11017 = (2000, 3, 1) := by decide

end PredicateSql.Time

/-! Reading decimal numbers. A decimal text is an optional sign, digits with an optional
fraction, and an optional exponent; at least one digit is needed before or after the point. It
reads as the nearest 64-bit float. The words for infinity and not-a-number are read too, in any
letter case. -/
namespace PredicateSql.Decimal

/-- The digits at the front of a text, as a number and a count. -/
def takeNumber (cs : List Char) : Nat × Nat × List Char :=
  let ds := cs.takeWhile Char.isDigit
  (ds.foldl (fun a c => 10 * a + (c.toNat - 48)) 0, ds.length, cs.drop ds.length)

/-- A decimal as a sign, an integer of digits and a power of ten. -/
structure Scientific where
  negative : Bool
  digits : Nat
  exp : Int
  deriving DecidableEq, Repr

/-- Reads an optional sign off the front. -/
def takeSign : List Char → Bool × List Char
  | '-' :: cs => (true, cs)
  | '+' :: cs => (false, cs)
  | cs => (false, cs)

/-- Reads a decimal text: sign, digits, fraction, exponent; nothing may follow. -/
def readScientific (s : String) : Option Scientific :=
  let (neg, cs) := takeSign s.toList
  let (whole, wn, cs) := takeNumber cs
  let (frac, fn, cs) := match cs with
    | '.' :: r => takeNumber r
    | r => (0, 0, r)
  if wn + fn == 0 then none
  else
    let e : Option (Int × List Char) := match cs with
      | c :: r =>
        if c = 'e' || c = 'E' then
          let (eneg, r) := takeSign r
          let (ev, en, r) := takeNumber r
          if en == 0 then none else some (if eneg then -(ev : Int) else ev, r)
        else some (0, c :: r)
      | [] => some (0, [])
    match e with
    | some (ev, []) => some ⟨neg, whole * Nat.pow 10 fn + frac, ev - fn⟩
    | _ => none

/-- The nearest 64-bit float of a decimal. -/
def Scientific.toFloat (d : Scientific) : Float :=
  let x := if d.exp < 0 then Float.ofScientific d.digits true d.exp.natAbs
    else Float.ofScientific d.digits false d.exp.toNat
  if d.negative then -x else x

/-- Whether the underscores of a number text each stand between two digits; the state is what
came last: a digit, an underscore, or anything else. -/
def groupedBy : List Char → Option Bool → Bool
  | [], last => last != some false
  | c :: cs, last =>
    if c.isDigit then groupedBy cs (some true)
    else if c = '_' then last == some true && groupedBy cs (some false)
    else last != some false && groupedBy cs none

/-- Reads a decimal text whose digits may be grouped by underscores, each between two digits. -/
def readGrouped (s : String) : Option Scientific :=
  let body := match s.toList with
    | '+' :: cs | '-' :: cs => cs
    | cs => cs
  if groupedBy body none then readScientific (s.replace "_" "") else none

/-- Reads a float: a decimal text, or a word for infinity or not-a-number with an optional sign. -/
def readFloat? (s : String) : Option Float :=
  let (neg, cs) := takeSign s.toList
  let word := String.ofList (cs.map Char.toLower)
  if word == "inf" || word == "infinity" then some (if neg then -1.0 / 0.0 else 1.0 / 0.0)
  else if word == "nan" then some (0.0 / 0.0)
  else (readScientific s).map Scientific.toFloat

example : readScientific "-1.25e2" = some ⟨true, 125, 0⟩ := by decide
example : readScientific "." = none ∧ readScientific "1e" = none := by decide
example : groupedBy ".1_0".toList none = true ∧ groupedBy "._1".toList none = false := by decide

end PredicateSql.Decimal

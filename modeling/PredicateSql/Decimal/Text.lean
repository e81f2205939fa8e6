import PredicateSql.Decimal.Shortest

/-! Shortest decimals as text. The digits come from `Binary.shortest`; a `Layout` decides when
the text switches to scientific notation and how wide its exponent is. Two layouts are used:
`general`, the one that parameters and operands are shown in, and `json`, the one of JSON
documents. -/
namespace PredicateSql.Decimal

/-- When a decimal is written with an exponent, and how. -/
structure Layout where
  /-- Decide by the value against the nearest 64-bit values of the bounds (`true`), or by the
  exponent of the printed digits (`false`). -/
  byValue : Bool
  /-- Scientific below `10^low`. -/
  low : Int
  /-- Scientific from `10^high` on. -/
  high : Int
  /-- Least number of digits of a positive exponent. -/
  positiveWidth : Nat
  /-- Least number of digits of a negative exponent. -/
  negativeWidth : Nat

/-- Scientific outside `[1e-4, 1e6)` of the printed digits; exponents signed, two digits at least. -/
def general : Layout := ⟨false, -4, 6, 2, 2⟩

def json : Layout := ⟨true, -6, 21, 2, 1⟩

def zeros (n : Nat) : List Char := List.replicate n '0'

/-- Decimal digits of `n`, padded with zeros to at least `width`. -/
def padded (width n : Nat) : List Char :=
  let ds := Nat.toDigits 10 n
  zeros (width - ds.length) ++ ds

/-- Digits `ds` with the decimal point after `dp` of them, written positionally. -/
def positional (ds : List Char) (dp : Int) : List Char :=
  if dp ≤ 0 then
    '0' :: '.' :: zeros (-dp).toNat ++ ds
  else if ds.length ≤ dp.toNat then ds ++ zeros (dp.toNat - ds.length)
  else ds.take dp.toNat ++ '.' :: ds.drop dp.toNat

/-- Digits `ds` with the decimal point after `dp` of them, written as one digit, a fraction and an
exponent. -/
def scientific (layout : Layout) (ds : List Char) (dp : Int) : List Char :=
  let e := dp - 1
  let mantissa := match ds with
    | [] => ['0']
    | [d] => [d]
    | d :: rest => d :: '.' :: rest
  let exponent :=
    if e < 0 then '-' :: padded layout.negativeWidth (-e).toNat
    else '+' :: padded layout.positiveWidth e.toNat
  mantissa ++ 'e' :: exponent

def Binary.cmp (a b : Binary) : Ordering :=
  compare (a.m * Nat.pow 2 a.q.toNat * Nat.pow 2 (-b.q).toNat) (b.m * Nat.pow 2 b.q.toNat * Nat.pow 2 (-a.q).toNat)

/-- The 64-bit value nearest to `10^k`. -/
def nearestPow10 (k : Int) : Binary :=
  let f := if k < 0 then Float.ofScientific 1 true k.natAbs else Float.ofScientific 1 false k.toNat
  match binary64.read f.toBits.toNat with
  | .finite _ b => b
  | _ => ⟨1, 0, false⟩

/-- Whether a non-zero value is written with an exponent. -/
def Layout.isScientific (layout : Layout) (x : Binary) (d : Dec) : Bool :=
  if layout.byValue then
    x.cmp (nearestPow10 layout.low) == .lt || x.cmp (nearestPow10 layout.high) != .lt
  else
    let e : Int := (digitCount d.digits : Int) + d.exp - 1
    e < layout.low || layout.high ≤ e

/-- The text of a finite value: its shortest digits in the layout, with a minus sign if negative. -/
def finiteText (layout : Layout) (negative : Bool) (x : Binary) : String :=
  let sign := if negative then ['-'] else []
  if x.m == 0 then String.ofList (sign ++ ['0'])
  else
    let d := x.shortest
    let ds := Nat.toDigits 10 d.digits
    let dp : Int := (ds.length : Int) + d.exp
    let body := if layout.isScientific x d then scientific layout ds dp else positional ds dp
    String.ofList (sign ++ body)

/-- The text of a value given by its bits: `NaN`, `+Inf`, `-Inf`, or its shortest digits. -/
def bitsText (f : Format) (layout : Layout) (bits : Nat) : String :=
  match f.read bits with
  | .nan => "NaN"
  | .infinite n => if n then "-Inf" else "+Inf"
  | .finite n x => finiteText layout n x

def floatText (x : Float) : String := bitsText binary64 general x.toBits.toNat

def float32Text (x : Float32) : String := bitsText binary32 general x.toBits.toNat

end PredicateSql.Decimal

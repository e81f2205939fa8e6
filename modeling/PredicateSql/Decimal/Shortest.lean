/-! Shortest decimal digits of a binary floating-point value `m * 2^q`: for one, two, three
significant digits and so on, the neighbours of the value on that decimal grid are tested, in exact
arithmetic, against the interval of reals that round to it; the first grid that hits gives the
digits, the nearer neighbour winning and the even one on a tie. -/
namespace PredicateSql.Decimal

/-- A binary interchange format: the stored fraction bits and the exponent bits. -/
structure Format where
  fractionBits : Nat
  exponentBits : Nat

def binary64 : Format := ⟨52, 11⟩

def binary32 : Format := ⟨23, 8⟩

/-- A finite, non-negative binary value `m * 2^q`. -/
structure Binary where
  m : Nat
  q : Int
  /-- The neighbour below is half as far away as the neighbour above. -/
  narrowBelow : Bool
  deriving Repr, DecidableEq

/-- What a bit pattern stands for. -/
inductive Reading where
  | nan
  | infinite (negative : Bool)
  | finite (negative : Bool) (x : Binary)
  deriving Repr, DecidableEq

/-- Decodes the bits of a value of the given format. -/
def Format.read (f : Format) (bits : Nat) : Reading :=
  let fraction := bits % Nat.pow 2 f.fractionBits
  let biased := (bits / Nat.pow 2 f.fractionBits) % Nat.pow 2 f.exponentBits
  let negative := (bits / Nat.pow 2 (f.fractionBits + f.exponentBits)) % 2 == 1
  let bias : Int := (Nat.pow 2 (f.exponentBits - 1) : Nat) - 1
  if biased == Nat.pow 2 f.exponentBits - 1 then
    if fraction == 0 then .infinite negative else .nan
  else if biased == 0 then
    .finite negative ⟨fraction, 1 - bias - f.fractionBits, false⟩
  else
    .finite negative ⟨Nat.pow 2 f.fractionBits + fraction, (biased : Int) - bias - f.fractionBits,
      fraction == 0 && biased > 1⟩

/-- A decimal `digits * 10^exp`. -/
structure Dec where
  digits : Nat
  exp : Int
  deriving Repr, DecidableEq

/-- Compares `a * 10^i` with `n * 2^j` exactly. -/
def cmpScaled (a : Nat) (i : Int) (n : Nat) (j : Int) : Ordering :=
  compare (a * Nat.pow 10 i.toNat * Nat.pow 2 (-j).toNat) (n * Nat.pow 2 j.toNat * Nat.pow 10 (-i).toNat)

/-- Whether a decimal lies among the reals that round to `x` (to nearest, ties to even). -/
def Binary.readsBack (x : Binary) (d : Dec) : Bool :=
  let lo := if x.narrowBelow then 4 * x.m - 1 else 4 * x.m - 2
  let hi := 4 * x.m + 2
  let incl := x.m % 2 == 0
  let cl := cmpScaled d.digits d.exp lo (x.q - 2)
  let ch := cmpScaled d.digits d.exp hi (x.q - 2)
  (cl == .gt || (incl && cl == .eq)) && (ch == .lt || (incl && ch == .eq))

def digitCount (n : Nat) : Nat := (Nat.toDigits 10 n).length

/-- `⌊x / 10^p⌋` for `x = m * 2^q`. -/
def Binary.floorOnGrid (x : Binary) (p : Int) : Nat :=
  (x.m * Nat.pow 2 x.q.toNat * Nat.pow 10 (-p).toNat) / (Nat.pow 2 (-x.q).toNat * Nat.pow 10 p.toNat)

/-- The exponent of the leading digit of a positive `x`: the largest `k` with `10^k ≤ x`. -/
def Binary.leadingExponent (x : Binary) : Int :=
  let k : Int := (digitCount (x.m * Nat.pow 2 x.q.toNat) : Int) - digitCount (Nat.pow 2 (-x.q).toNat)
  if cmpScaled 1 k x.m x.q == .gt then k - 1 else k

/-- The nearer of two neighbours `d * 10^p` and `(d + 1) * 10^p` of `x`, the even one on a tie. -/
def Binary.nearer (x : Binary) (d : Nat) (p : Int) : Nat :=
  match cmpScaled (2 * d + 1) p (2 * x.m) x.q with
  | .gt => d
  | .lt => d + 1
  | .eq => if d % 2 == 0 then d else d + 1

/-- The first grid, from `n` significant digits up to `n + fuel`, with a neighbour of `x` inside
its interval, and the chosen neighbour. -/
def Binary.search (x : Binary) (k : Int) (n : Nat) : Nat → Dec
  | 0 => ⟨x.floorOnGrid (k - n + 1), k - n + 1⟩
  | fuel + 1 =>
    let p := k - n + 1
    let d := x.floorOnGrid p
    match x.readsBack ⟨d, p⟩, x.readsBack ⟨d + 1, p⟩ with
    | true, true => ⟨x.nearer d p, p⟩
    | true, false => ⟨d, p⟩
    | false, true => ⟨d + 1, p⟩
    | false, false => x.search k (n + 1) fuel

/-- Drops trailing zero digits, raising the exponent to match. -/
def Dec.trim (d : Dec) : Nat → Dec
  | 0 => d
  | fuel + 1 => if d.digits != 0 && d.digits % 10 == 0 then Dec.trim ⟨d.digits / 10, d.exp + 1⟩ fuel else d

/-- The shortest decimal that reads back as `x`, without trailing zeros; zero is `0 * 10^0`. -/
def Binary.shortest (x : Binary) : Dec :=
  if x.m == 0 then ⟨0, 0⟩
  else
    let d := x.search x.leadingExponent 1 17
    d.trim (digitCount d.digits)

example : (binary64.read 0x3FF8000000000000) = .finite false ⟨3 * 2 ^ 51, -52, false⟩ := by decide
example : (binary64.read 0x7FF0000000000000) = .infinite false := by decide

end PredicateSql.Decimal

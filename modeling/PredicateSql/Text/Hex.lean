import PredicateSql.Text.Quoted

/-! Bytes as hexadecimal text: two lower-case digits per byte, and unique identifiers in their
canonical 8-4-4-4-12 grouping. -/
namespace PredicateSql.Text

def hexOfBytes (bs : List UInt8) : String :=
  String.ofList (bs.flatMap fun b => hexDigits b.toNat 2)

/-- The value of a hex digit of either case. -/
def hexValue (c : Char) : Option Nat :=
  if c.isDigit then some (c.toNat - 48)
  else if 'a' ≤ c && c ≤ 'f' then some (c.toNat - 87)
  else if 'A' ≤ c && c ≤ 'F' then some (c.toNat - 55)
  else none

/-- The bytes of an even number of hex digits. -/
def bytesOfHex : List Char → Option (List UInt8)
  | [] => some []
  | a :: b :: rest => do
    let x ← hexValue a
    let y ← hexValue b
    let r ← bytesOfHex rest
    pure ((16 * x + y).toUInt8 :: r)
  | [_] => none

/-- A 16-byte identifier in groups of 8, 4, 4, 4 and 12 hex digits joined by dashes. -/
def uuidText (bs : List UInt8) : String :=
  let h := (hexOfBytes bs).toList
  String.ofList (h.take 8 ++ '-' :: (h.drop 8).take 4 ++ '-' :: (h.drop 12).take 4 ++ '-' ::
    (h.drop 16).take 4 ++ '-' :: h.drop 20)

/-- The bytes of an identifier written with or without dashes. -/
def uuidBytes? (s : String) : Option (List UInt8) := do
  let bs ← bytesOfHex (s.toList.filter (· != '-'))
  if bs.length == 16 then some bs else none

example : hexOfBytes [0, 255, 16] = "00ff10" := by decide

end PredicateSql.Text

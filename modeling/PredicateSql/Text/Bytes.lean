/-! Bytes and text: base64 in its standard alphabet, and texts as byte strings. A byte outside a
well-formed UTF-8 sequence is kept as a stray character, so no byte is lost; texts order by their
bytes. -/
namespace PredicateSql.Text

def strayBase : Nat := 0xF7F00

def stray (b : UInt8) : Char := Char.ofNat (strayBase + b.toNat)

/-- The byte a stray character keeps; none for any other character. -/
def strayByte? (c : Char) : Option UInt8 :=
  if strayBase + 0x80 ≤ c.toNat && c.toNat ≤ strayBase + 0xFF then some (c.toNat - strayBase).toUInt8
  else none

/-- The bytes of one character: its UTF-8 form, or the stray byte it keeps. -/
def charBytes (c : Char) : List UInt8 :=
  match strayByte? c with
  | some b => [b]
  | none => c.toString.toUTF8.toList

def bytes (s : String) : List UInt8 := s.toList.flatMap charBytes

/-- Whether one list of bytes comes before another or equals it, comparing byte by byte and a
prefix first. -/
def bytesLe : List UInt8 → List UInt8 → Bool
  | [], _ => true
  | _ :: _, [] => false
  | a :: as, b :: bs => a < b || (a == b && bytesLe as bs)

def byteLe (a b : String) : Bool := bytesLe (bytes a) (bytes b)

def byteLt (a b : String) : Bool := !byteLe b a

/-- A text as a reader of characters sees it: each stray byte is the replacement character. -/
def scrub (s : String) : String := s.map fun c => if (strayByte? c).isSome then '\uFFFD' else c

/-- The value of a character of the standard base64 alphabet. -/
def base64Value (c : Char) : Option Nat :=
  if 'A' ≤ c && c ≤ 'Z' then some (c.toNat - 65)
  else if 'a' ≤ c && c ≤ 'z' then some (c.toNat - 71)
  else if '0' ≤ c && c ≤ '9' then some (c.toNat + 4)
  else if c = '+' then some 62
  else if c = '/' then some 63
  else none

/-- Decodes groups of four characters; only the last group may end in `=` or `==`. -/
def base64Groups : List Char → Option (List UInt8)
  | [] => some []
  | [a, b, '=', '='] => do
    let x ← base64Value a
    let y ← base64Value b
    pure [(x * 4 + y / 16).toUInt8]
  | [a, b, c, '='] => do
    let x ← base64Value a
    let y ← base64Value b
    let z ← base64Value c
    pure [(x * 4 + y / 16).toUInt8, ((y % 16) * 16 + z / 4).toUInt8]
  | a :: b :: c :: d :: rest => do
    let x ← base64Value a
    let y ← base64Value b
    let z ← base64Value c
    let w ← base64Value d
    let r ← base64Groups rest
    pure ((x * 4 + y / 16).toUInt8 :: ((y % 16) * 16 + z / 4).toUInt8 ::
      ((z % 4) * 64 + w).toUInt8 :: r)
  | _ => none

/-- Decodes base64 text; line breaks in it are ignored. -/
def decodeBase64 (s : String) : Option (List UInt8) :=
  base64Groups (s.toList.filter fun c => c != '\r' && c != '\n')

def isContinuation (b : UInt8) : Bool := 0x80 ≤ b && b ≤ 0xBF

/-- The character a well-formed UTF-8 sequence at the front encodes, and its length. -/
def utf8Front : List UInt8 → Option (Char × Nat)
  | a :: rest =>
    let n := a.toNat
    if n < 0x80 then some (Char.ofNat n, 1)
    else match rest with
      | b :: rest2 =>
        let m := b.toNat
        if 0xC2 ≤ n && n ≤ 0xDF && isContinuation b then
          some (Char.ofNat ((n % 32) * 64 + m % 64), 2)
        else
          let lo := if n = 0xE0 then 0xA0 else if n = 0xF0 then 0x90 else 0x80
          let hi := if n = 0xED then 0x9F else if n = 0xF4 then 0x8F else 0xBF
          if m < lo || m > hi then none
          else match rest2 with
            | c :: rest3 =>
              if !isContinuation c then none
              else if 0xE0 ≤ n && n ≤ 0xEF then
                some (Char.ofNat ((n % 16) * 4096 + (m % 64) * 64 + c.toNat % 64), 3)
              else match rest3 with
                | d :: _ =>
                  if 0xF0 ≤ n && n ≤ 0xF4 && isContinuation d then
                    some (Char.ofNat ((n % 8) * 262144 + (m % 64) * 4096 + (c.toNat % 64) * 64 +
                      d.toNat % 64), 4)
                  else none
                | [] => none
            | [] => none
      | [] => none
  | [] => none

/-- Reads bytes as text: each well-formed UTF-8 sequence is its character, and each byte that
starts none is kept as a stray. -/
def ofBytes (bs : List UInt8) : String :=
  go bs.length bs ""
where
  /-- Reads with a bound on the steps left. -/
  go : Nat → List UInt8 → String → String
    | 0, _, acc => acc
    | _, [], acc => acc
    | fuel + 1, b :: rest, acc =>
      match utf8Front (b :: rest) with
      | some (c, k) => go fuel ((b :: rest).drop k) (acc.push c)
      | none => go fuel rest (acc.push (stray b))

/-- The first `n` bytes of a text; the kept bytes of a character cut short are strays. -/
def byteExcerpt (s : String) (n : Nat) : String :=
  (s.toList.foldl (fun (acc : String × Nat) c =>
    let bs := charBytes c
    if acc.2 + bs.length ≤ n then (acc.1.push c, acc.2 + bs.length)
    else if acc.2 < n then
      (acc.1 ++ String.ofList ((bs.take (n - acc.2)).map stray), n)
    else acc) ("", 0)).1

example : decodeBase64 "aGVsbG8=" = some [104, 101, 108, 108, 111] := by decide
example : bytesLe [0xEF, 0xBF, 0xBE] [0xFF] ∧ !bytesLe [0xFF] [0xF4, 0x8F] := by decide

end PredicateSql.Text

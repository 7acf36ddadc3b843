/-! Numbers as double precision holds them, and the fewest decimal digits that tell one from its
neighbours. Everything is exact arithmetic on natural numbers. -/

namespace Playground.Decimal

/-- A positive double: `mantissa * 2 ^ exponent`, where `exponent` is at least -1074 and `mantissa`
is below `2 ^ 53`. -/
structure Binary where
  mantissa : Nat
  exponent : Int
deriving DecidableEq, Repr

/-- `num / den` rounded to the nearest natural number, a tie to the even one. -/
def roundEven (num den : Nat) : Nat :=
  let q := num / den
  let r := num % den
  if 2 * r < den then q else if den < 2 * r then q + 1 else if q % 2 = 0 then q else q + 1

/-- The double nearest to the positive quotient `num / den`; `none` beyond the largest one. -/
def ofQuotient (num den : Nat) : Option Binary :=
  let size : Int := (Nat.log2 num : Int) - (Nat.log2 den : Int)
  let guess := max (size - 53) (-1074)
  let scaled (e : Int) : Nat :=
    if 0 ≤ e then roundEven num (den * Nat.pow 2 e.toNat)
    else roundEven (num * Nat.pow 2 (-e).toNat) den
  let rec settle (fuel : Nat) (e : Int) : Binary :=
    match fuel with
    | 0 => ⟨scaled e, e⟩
    | fuel + 1 => if scaled e < 0x20000000000000 then ⟨scaled e, e⟩ else settle fuel (e + 1)
  let found := settle 4 guess
  if found.exponent > 971 then none else some found

/-- The value as a quotient. -/
def Binary.quotient (b : Binary) : Nat × Nat :=
  if 0 ≤ b.exponent then (b.mantissa * Nat.pow 2 b.exponent.toNat, 1)
  else (b.mantissa, Nat.pow 2 (-b.exponent).toNat)

/-- The number of digits before the decimal point of `num / den`, at most zero for a value below
one. -/
def leadingPlace (num den : Nat) : Int :=
  let rec up (fuel : Nat) (place : Nat) : Nat :=
    match fuel with
    | 0 => place
    | fuel + 1 => if num < den * Nat.pow 10 place then place else up fuel (place + 1)
  let rec down (fuel : Nat) (place : Nat) : Nat :=
    match fuel with
    | 0 => place
    | fuel + 1 => if num * Nat.pow 10 (place + 1) < den then down fuel (place + 1) else place
  if den ≤ num then up 400 0 else -(down 400 0 : Nat)

/-- Digits `d` and a place `p` for the decimal `0.d * 10 ^ p`. -/
structure Digits where
  digits : Nat
  count : Nat
  place : Int
deriving DecidableEq, Repr

/-- The multiples of `10 ^ (place - count)` next to `num / den`, the nearer one first. -/
def neighbours (num den count : Nat) (place : Int) : List Nat :=
  let e := place - count
  let (n, d) :=
    if 0 ≤ e then (num, den * Nat.pow 10 e.toNat) else (num * Nat.pow 10 (-e).toNat, den)
  let low := n / d
  let rest := n % d
  if 2 * rest < d then [low, low + 1] else if d < 2 * rest then [low + 1, low]
  else if low % 2 = 0 then [low, low + 1] else [low + 1, low]

/-- The decimal `digits * 10 ^ (place - count)` as a quotient. -/
def Digits.quotient (d : Digits) : Nat × Nat :=
  let e := d.place - d.count
  if 0 ≤ e then (d.digits * Nat.pow 10 e.toNat, 1) else (d.digits, Nat.pow 10 (-e).toNat)

/-- The shortest decimal that reads back as `b`, and of those the nearest. -/
def shortest (b : Binary) : Digits :=
  let (num, den) := b.quotient
  let place := leadingPlace num den
  let rec search (fuel count : Nat) : Digits :=
    let found := (neighbours num den count place).find? fun digits =>
      let (n, d) := (Digits.mk digits count place).quotient
      digits ≠ 0 && ofQuotient n d = some b
    match found, fuel with
    | some digits, _ => ⟨digits, count, place⟩
    | none, 0 => ⟨(neighbours num den count place).headD 0, count, place⟩
    | none, fuel + 1 => search fuel (count + 1)
  search 17 1

/-- Trailing zeros of a digit string taken off. -/
def stripZeros (cs : List Char) : List Char := (cs.reverse.dropWhile (· = '0')).reverse

/-- The decimal written in full, without an exponent. -/
def Digits.positional (d : Digits) : String :=
  let text := Nat.toDigits 10 d.digits
  -- Rounding up can carry into one more digit.
  let place := d.place + ((text.length : Int) - d.count)
  if place ≤ 0 then
    "0." ++ String.ofList (List.replicate (-place).toNat '0' ++ stripZeros text)
  else
    let whole := text.take place.toNat
    let zeros := List.replicate (place.toNat - text.length) '0'
    let fraction := stripZeros (text.drop place.toNat)
    String.ofList (whole ++ zeros)
      ++ (if fraction.isEmpty then "" else "." ++ String.ofList fraction)

/-- The double nearest to `num / den`, written in full with the fewest digits that read back. -/
def positionalOf (num den : Nat) : String :=
  if num = 0 then "0"
  else
    match ofQuotient num den with
    | none => "inf"
    | some b => if b.mantissa = 0 then "0" else (shortest b).positional

/-- The digits of a decimal without the zeros at their end, and the place of the point before which
they stand. -/
def Digits.normal (d : Digits) : List Char × Int :=
  let text := Nat.toDigits 10 d.digits
  (stripZeros text, d.place + ((text.length : Int) - d.count))

/-- The decimal with a point, or with an exponent where more than sixteen digits or five zeros would
be needed. -/
def Digits.compact (d : Digits) : String :=
  let (ds, place) := d.normal
  if ds.length ≤ place && place ≤ 16 then
    String.ofList (ds ++ List.replicate (place.toNat - ds.length) '0') ++ ".0"
  else if 0 < place && place ≤ 16 then
    String.ofList (ds.take place.toNat) ++ "." ++ String.ofList (ds.drop place.toNat)
  else if -5 < place && place ≤ 0 then
    "0." ++ String.ofList (List.replicate (-place).toNat '0' ++ ds)
  else
    let point := if ds.length = 1 then "" else "."
    String.ofList (ds.take 1) ++ point ++ String.ofList (ds.drop 1) ++ "e" ++ toString (place - 1)

/-- The double nearest to `num / den`, written compactly with the fewest digits that read back. -/
def compactOf (num den : Nat) : String :=
  if num = 0 then "0.0"
  else
    match ofQuotient num den with
    | none => "inf"
    | some b => if b.mantissa = 0 then "0.0" else (shortest b).compact

/-- The quotient that decimal digits with a point and an exponent stand for. -/
def quotientOf (cs : List Char) : Nat × Nat :=
  let isExponent (c : Char) : Bool := c = 'e' || c = 'E'
  let natOf (ds : List Char) : Nat :=
    ds.foldl (fun n d => if d.isDigit then n * 10 + (d.toNat - '0'.toNat) else n) 0
  let body := cs.takeWhile (!isExponent ·)
  let power := (cs.dropWhile (!isExponent ·)).drop 1
  let fraction := (body.dropWhile (· ≠ '.')).drop 1
  let digits := natOf body
  let size := natOf power
  if power.head? = some '-' then (digits, Nat.pow 10 (fraction.length + size))
  else (digits * Nat.pow 10 size, Nat.pow 10 fraction.length)

/-- A number as it was written, told by the double that it stands for. -/
def retold (raw : String) : String :=
  let cs := raw.toList
  let magnitude := if cs.head? = some '-' then cs.drop 1 else cs
  let (num, den) := quotientOf magnitude
  (if cs.head? = some '-' then "-" else "") ++ compactOf num den

end Playground.Decimal

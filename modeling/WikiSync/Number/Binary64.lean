import WikiSync.Number.Word

/-!
# Binary Floating-Point Numbers

The finite numbers that a 64-bit word can hold, as a sign, a mantissa and a
power of two, and the number of them that is nearest to a decimal. All of it
is exact arithmetic on natural numbers.

A number is written with the fewest digits that read back as the same number;
of several such texts it is the one nearest to the number.

## Main definitions

* `Binary64`: The type.
* `Binary64.ofDecimal?`: The number nearest to a decimal.
* `Binary64.shortest`: The fewest digits that read back.
* `Binary64.text`: The written form.
-/

namespace WikiSync

/-- The number `mantissa * 2 ^ exponent`, with a sign. Numbers read from a
decimal have the largest mantissa below `2 ^ 53` that the least exponent,
`-1074`, admits. -/
structure Binary64 where
  negative : Bool
  mantissa : Nat
  exponent : Int
deriving DecidableEq, Repr

namespace Binary64

/-- The least exponent. -/
def minExponent : Int := -1074

/-- The largest exponent. -/
def maxExponent : Int := 971

/-- The numerator and the denominator of `n * b ^ e`. -/
def fraction (n b : Nat) (e : Int) : Nat × Nat :=
  if 0 ≤ e then (n * Nat.pow b e.toNat, 1) else (n, Nat.pow b (-e).toNat)

/-- The quotient rounded to the nearest integer, a half to the even one. -/
def roundDiv (num den : Nat) : Nat :=
  let q := num / den
  let twice := 2 * (num % den)
  if twice < den || (twice = den && q % 2 = 0) then q else q + 1

/-- The largest `k` with `2 ^ k ≤ num / den`, for a positive fraction. -/
def binaryOrder (num den : Nat) : Int :=
  let k : Int := (num.log2 : Int) - (den.log2 : Int)
  let (a, b) := fraction den 2 k
  if a ≤ num * b then k else k - 1

/-- The number nearest to `digits * 10 ^ exponent`, none if that is too large
to be finite. -/
def ofDecimal? (negative : Bool) (digits : Nat) (exponent : Int) : Option Binary64 :=
  let zero : Binary64 := ⟨negative, 0, minExponent⟩
  if digits = 0 then some zero
  else
    let magnitude := ((Nat.toDigits 10 digits).length : Int) + exponent
    if magnitude < -400 then some zero
    else if magnitude > 400 then none
    else
      let (num, den) := fraction digits 10 exponent
      let e := max minExponent (binaryOrder num den - 52)
      let (a, b) := fraction num 2 (-e)
      let m := roundDiv a (b * den)
      let (m, e) := if m = wordSize 53 then (wordSize 52, e + 1) else (m, e)
      if e > maxExponent then none else some ⟨negative, m, e⟩

/-- The largest `k` with `10 ^ k ≤ num / den`, for a positive fraction. -/
def decimalOrder (num den : Nat) : Int :=
  if den ≤ num then ((Nat.toDigits 10 (num / den)).length : Int) - 1
  else
    let inverse := (den + num - 1) / num
    Int.negOfNat (Nat.toDigits 10 (inverse - 1)).length

/-- Whether `digits * 10 ^ e` reads back as the number `m * 2 ^ q`: it lies
between the halfway points to its neighbours. A halfway point itself belongs
to the number with the even mantissa. -/
def readsBack (m : Nat) (q : Int) (digits : Nat) (e : Int) : Bool :=
  let (dn, dd) := fraction digits 10 e
  let (bn, bd) := fraction 1 2 q
  -- compare `4 * dn / dd` with the halfway points, in units of `2 ^ q / 4`
  let x := 4 * dn * bd
  let unit := bn * dd
  let low := (if m = wordSize 52 && q != minExponent then 4 * m - 1 else 4 * m - 2) * unit
  let high := (4 * m + 2) * unit
  if m % 2 = 0 then low ≤ x && x ≤ high else low < x && x < high

/-- The fewest digits that read back, starting at `n` of them, and the power
of ten that goes with them. -/
def shortestFrom (m : Nat) (q : Int) : Nat → Nat → Nat × Int
  | 0, _ => (0, 0)
  | fuel + 1, n =>
    let (num, den) := fraction m 2 q
    let e := decimalOrder num den - (n : Int) + 1
    let (a, b) := fraction num 10 (-e)
    let below := a / (b * den)
    let rest := 2 * (a % (b * den))
    let nearer := if rest < b * den || (rest = b * den && below % 2 = 0) then below else below + 1
    let farther := if nearer = below then below + 1 else below
    if readsBack m q nearer e then (nearer, e)
    else if readsBack m q farther e then (farther, e)
    else shortestFrom m q fuel (n + 1)

/-- The digits and the power of ten without zeros at the end of the digits. -/
def dropZeros : Nat → Nat → Int → Nat × Int
  | 0, digits, e => (digits, e)
  | fuel + 1, digits, e =>
    if digits != 0 && digits % 10 = 0 then dropZeros fuel (digits / 10) (e + 1) else (digits, e)

/-- The fewest digits that read back, and the power of ten that goes with
them. -/
def shortest (x : Binary64) : Nat × Int :=
  if x.mantissa = 0 then (0, 0)
  else
    let (digits, e) := shortestFrom x.mantissa x.exponent 17 1
    dropZeros 17 digits e

/-- Digits times a power of ten. The point is put in place for numbers from
`0.00001` up to `10 ^ 16`; beyond them an exponent follows. -/
def layout (digits : Nat) (e : Int) : String :=
  let text := Nat.toDigits 10 digits
  let n := text.length
  let point := (n : Int) + e
  let zeros (k : Int) := List.replicate k.toNat '0'
  String.ofList <|
    if 0 ≤ e && point ≤ 16 then text ++ zeros e ++ ['.', '0']
    else if 0 < point && point ≤ 16 then
      text.take point.toNat ++ '.' :: text.drop point.toNat
    else if -5 < point && point ≤ 0 then '0' :: '.' :: zeros (-point) ++ text
    else
      let exponent := 'e' :: (toString (point - 1)).toList
      match text with
      | [d] => d :: exponent
      | d :: more => d :: '.' :: more ++ exponent
      | [] => exponent

/-- The written form of a number. -/
def text (x : Binary64) : String :=
  let (digits, e) := x.shortest
  (if x.negative then "-" else "") ++ layout digits e

end Binary64

end WikiSync

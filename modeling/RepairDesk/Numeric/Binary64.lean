namespace RepairDesk.Numeric

/-- A finite binary64 value as its sign, significand and power of two:
`(-1)^negative * significand * 2^exponent`. -/
structure Binary64 where
  negative : Bool
  significand : Nat
  exponent : Int
  deriving DecidableEq

namespace Binary64

def toBits (x : Binary64) : UInt64 :=
  let sign : Nat := if x.negative then Nat.pow 2 63 else 0
  if x.significand < Nat.pow 2 52 then
    UInt64.ofNat (sign + x.significand)
  else
    UInt64.ofNat (sign + (x.exponent + 1075).toNat * Nat.pow 2 52 + (x.significand - Nat.pow 2 52))

def ofBits (bits : UInt64) : Option Binary64 :=
  let n := bits.toNat
  let negative := n ≥ Nat.pow 2 63
  let biased : Nat := (n / Nat.pow 2 52) % Nat.pow 2 11
  let fraction : Nat := n % Nat.pow 2 52
  if biased = Nat.pow 2 11 - 1 then none
  else if biased = 0 then some ⟨negative, fraction, -1074⟩
  else some ⟨negative, fraction + Nat.pow 2 52, (biased : Int) - 1075⟩

def bitLength (n : Nat) : Nat :=
  if n = 0 then 0 else n.log2 + 1

def decimalLength (n : Nat) : Nat :=
  (Nat.toDigits 10 n).length

def roundQuotient (num den : Nat) (shift : Int) : Nat :=
  let scaledNum := if shift ≥ 0 then num else num * Nat.pow 2 (-shift).toNat
  let scaledDen := if shift ≥ 0 then den * Nat.pow 2 shift.toNat else den
  let q := scaledNum / scaledDen
  let r := scaledNum % scaledDen
  if 2 * r > scaledDen then q + 1
  else if 2 * r = scaledDen ∧ q % 2 = 1 then q + 1
  else q

def ofRatio (negative : Bool) (num den : Nat) : Option Binary64 :=
  if num = 0 then some ⟨negative, 0, -1074⟩
  else
    -- an exponent that puts the quotient in [2^52, 2^54)
    let guess : Int := (bitLength num : Int) - (bitLength den : Int) - 53
    let e : Int :=
      if roundQuotient num den guess ≥ Nat.pow 2 53 then guess + 1
      else if roundQuotient num den (guess - 1) < Nat.pow 2 53 then guess - 1
      else guess
    let e := max e (-1074)
    let m := roundQuotient num den e
    let (m, e) := if m ≥ Nat.pow 2 53 then (m / 2, e + 1) else (m, e)
    if e > 971 then none else some ⟨negative, m, e⟩

/-- The binary64 value nearest to `digits * 10^exp10`. -/
def ofDecimal (negative : Bool) (digits : Nat) (exp10 : Int) : Option Binary64 :=
  if digits = 0 then some ⟨negative, 0, -1074⟩
  else if exp10 + decimalLength digits > 310 then none
  else if exp10 + decimalLength digits < -330 then some ⟨negative, 0, -1074⟩
  else if exp10 ≥ 0 then ofRatio negative (digits * Nat.pow 10 exp10.toNat) 1
  else ofRatio negative digits (Nat.pow 10 (-exp10).toNat)

def compareScaled (a : Nat) (a2 a10 : Int) (b : Nat) (b2 b10 : Int) : Ordering :=
  let m2 := min a2 b2
  let m10 := min a10 b10
  compare (a * Nat.pow 2 (a2 - m2).toNat * Nat.pow 10 (a10 - m10).toNat)
    (b * Nat.pow 2 (b2 - m2).toNat * Nat.pow 10 (b10 - m10).toNat)

def decimalMagnitude (m : Nat) (e : Int) : Int :=
  let num := m * Nat.pow 2 e.toNat
  let den := Nat.pow 2 (-e).toNat
  if num ≥ den then (decimalLength (num / den) : Int) - 1
  else
    let rec below : Nat → Nat → Int
      | 0, _ => -400
      | fuel + 1, s => if num * Nat.pow 10 s ≥ den then -(s : Int) else below fuel (s + 1)
    below 400 1

def stripZeros : Nat → Nat → Int → Nat × Int
  | 0, c, k => (c, k)
  | fuel + 1, c, k => if c ≠ 0 ∧ c % 10 = 0 then stripZeros fuel (c / 10) (k + 1) else (c, k)

/-- The shortest decimal `c * 10^k` that rounds back to the positive value `m * 2^e`; of two
such decimals of one length the nearer, and of two equally near the even one. -/
def shortest (m : Nat) (e : Int) : Nat × Int :=
  -- the values that round to `m * 2^e` lie strictly between `low / 4` and `high / 4` times
  -- `2^e`, and on those two ends too when `m` is even
  let low := if m = Nat.pow 2 52 ∧ e > -1074 then 4 * m - 1 else 4 * m - 2
  let high := 4 * m + 2
  let inside (c : Nat) (k : Int) : Bool :=
    let lowOk := match compareScaled c 2 k low e 0 with
      | .gt => true
      | .eq => m % 2 = 0
      | .lt => false
    let highOk := match compareScaled c 2 k high e 0 with
      | .lt => true
      | .eq => m % 2 = 0
      | .gt => false
    lowOk && highOk
  let t := decimalMagnitude m e
  let rec search : Nat → Nat → Nat × Int
    | 0, _ => (m, e)
    | fuel + 1, n =>
      let k : Int := t - n + 1
      let num := m * Nat.pow 2 e.toNat * Nat.pow 10 (-k).toNat
      let den := Nat.pow 2 (-e).toNat * Nat.pow 10 k.toNat
      let below := num / den
      let above := below + 1
      match inside below k, inside above k with
      | true, true =>
        -- twice the distances from the value to each candidate, in units of 10^k / den
        let toBelow := num - below * den
        let toAbove := above * den - num
        if toBelow < toAbove then stripZeros 20 below k
        else if toAbove < toBelow then stripZeros 20 above k
        else if below % 2 = 0 then stripZeros 20 below k
        else stripZeros 20 above k
      | true, false => stripZeros 20 below k
      | false, true => stripZeros 20 above k
      | false, false => search fuel (n + 1)
  search 17 1

def zeros (n : Nat) : String :=
  String.ofList (List.replicate n '0')

def exponentText (n : Int) : String :=
  if n > 0 then "+" ++ toString n else toString n

def layout (c : Nat) (k : Int) : String :=
  let ds := Nat.toDigits 10 c
  let len : Int := ds.length
  let kk := len + k
  if 0 ≤ k ∧ kk ≤ 16 then
    String.ofList ds ++ zeros k.toNat ++ ".0"
  else if 0 < kk ∧ kk ≤ 16 then
    String.ofList (ds.take kk.toNat) ++ "." ++ String.ofList (ds.drop kk.toNat)
  else if -5 < kk ∧ kk ≤ 0 then
    "0." ++ zeros (-kk).toNat ++ String.ofList ds
  else
    let expText := exponentText (kk - 1)
    match ds with
    | [d] => String.ofList [d] ++ "e" ++ expText
    | d :: rest => String.ofList [d] ++ "." ++ String.ofList rest ++ "e" ++ expText
    | [] => "0e" ++ expText

/-- The written form of a finite value. -/
def render (x : Binary64) : String :=
  let sign := if x.negative then "-" else ""
  if x.significand = 0 then sign ++ "0.0"
  else
    let (c, k) := shortest x.significand x.exponent
    sign ++ layout c k

end Binary64

end RepairDesk.Numeric

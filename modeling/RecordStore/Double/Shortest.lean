/-
The shortest decimal that rounds back to a double, and its written form. Digits are searched on
the grids of one, two, … seventeen significant digits; the first grid with a point in the
rounding interval of the number wins, and of two such points the nearer.
-/
import RecordStore.Double.Decimal

namespace RecordStore

/-- How a decimal is laid out: positional while the exponent of its first digit lies between
`least` and `most`, else scientific with a signed exponent of at least `width` digits. -/
structure DecimalLayout where
  least : Int
  most : Int
  width : Nat

namespace Double

/-- The layout of written doubles: `0.0001` to `9999999999999998.0` in positional notation,
two digits of exponent outside. -/
def layout : DecimalLayout := ⟨-4, 15, 2⟩

/-- The rounding interval of `m · 2^e` in quarters of its unit `2^e`: lower end, upper end. -/
def interval (m : Nat) (e : Int) : Nat × Nat :=
  (if m = Nat.pow 2 52 ∧ -1074 < e then 4 * m - 1 else 4 * m - 2, 4 * m + 2)

/-- Whether `d · 10^k` rounds to `m · 2^e`: it lies between the ends of the rounding interval,
which belong to it when `m` is even. -/
def roundsTo (m : Nat) (e : Int) (d : Nat) (k : Int) : Bool :=
  let (lo, hi) := interval m e
  let x := d * Nat.pow 10 k.toNat * Nat.pow 2 (2 - e).toNat
  let unit := Nat.pow 10 (-k).toNat * Nat.pow 2 (e - 2).toNat
  if m % 2 = 0 then lo * unit ≤ x && x ≤ hi * unit else lo * unit < x && x < hi * unit

/-- The place of the first digit of `num / den`: `10^(p-1) ≤ num / den < 10^p`. -/
def leadingPlace (num den : Nat) (depth : Nat) : Int :=
  if den ≤ num then Decimal.digitCount (num / den)
  else
    let zeros := ((List.range depth).find? fun j => den ≤ num * Nat.pow 10 (j + 1)).getD depth
    Int.negOfNat zeros

/-- The grid points of step `10^k` next to `num / den`, the nearer first; a tie puts the even
point first. -/
def neighbours (num den : Nat) (k : Int) : List Nat :=
  let n := num * Nat.pow 10 (-k).toNat
  let d := den * Nat.pow 10 k.toNat
  let q := n / d
  if roundDiv n d = q then [q, q + 1] else [q + 1, q]

/-- The digits and the last place of the shortest decimal that rounds to `m · 2^e`, for a
positive `m`. -/
def shortest (m : Nat) (e : Int) : Decimal :=
  let num := m * Nat.pow 2 e.toNat
  let den := Nat.pow 2 (-e).toNat
  let p := leadingPlace num den (-e).toNat
  let hit := (List.range 17).findSome? fun n =>
    let k : Int := p - ((n + 1 : Nat) : Int)
    ((neighbours num den k).find? fun d => roundsTo m e d k).map fun d => (⟨d, k⟩ : Decimal)
  hit.getD ⟨m, 0⟩

/-- A sign, where it is negative. -/
def minus (neg : Bool) : String := if neg then "-" else ""

/-- The digits of `n`, filled up with zeros on the left to `width` places. -/
def padded (width n : Nat) : List Char :=
  let ds := Nat.toDigits 10 n
  List.replicate (width - ds.length) '0' ++ ds

/-- The written form of a decimal by a layout. -/
def written (l : DecimalLayout) (x : Decimal) : String :=
  let digits := (Nat.toDigits 10 x.mant)
  let kept := (digits.reverse.dropWhile (· = '0')).reverse
  let kept := if kept.isEmpty then ['0'] else kept
  let first : Int := x.exp + digits.length - 1
  if l.least ≤ first && first ≤ l.most then
    if first < 0 then
      String.ofList ('0' :: '.' :: List.replicate (-first - 1).toNat '0' ++ kept)
    else
      let cut := first.toNat + 1
      let whole := kept.take cut ++ List.replicate (cut - kept.length) '0'
      let frac := kept.drop cut
      String.ofList (whole ++ '.' :: (if frac.isEmpty then ['0'] else frac))
  else
    let tail := kept.drop 1
    let point := if tail.isEmpty then [] else '.' :: tail
    let mark := if first < 0 then '-' else '+'
    String.ofList (kept.take 1 ++ point ++ 'e' :: mark :: padded l.width first.natAbs)

/-- The text of a double: the shortest decimal that rounds back to it. -/
def text : Double → String
  | .nan => "nan"
  | .infinite neg => minus neg ++ "inf"
  | .finite neg m e =>
    minus neg ++ if m = 0 then "0.0" else written layout (shortest m e)

end Double

end RecordStore

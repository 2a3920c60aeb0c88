/-!
# Double-precision numbers

Averages are reported as IEEE double-precision numbers, written with the fewest decimal digits
that read back as the same number. Both steps are done exactly on natural numbers: a ratio is
rounded to the nearest double (ties to an even mantissa), and the shortest decimal is the one
with the largest power of ten that still lies inside the interval of reals rounding to that
double.
-/

namespace ControlPlane

/-- A finite non-negative double `mantissa * 2 ^ exponent`, with `mantissa < 2 ^ 53` and
`exponent ≥ -1074`. -/
structure Binary64 where
  mantissa : Nat
  exponent : Int
  deriving DecidableEq, Repr, Inhabited

namespace Binary64

def floorLog2 (p q : Nat) : Int :=
  let k : Int := (p.log2 : Int) - q.log2
  let fits := if 0 ≤ k then q * Nat.pow 2 k.toNat ≤ p else q ≤ p * Nat.pow 2 (-k).toNat
  if fits then k else k - 1

def roundHalfEven (n d : Nat) : Nat :=
  let q := n / d
  let r := n % d
  if 2 * r > d ∨ (2 * r = d ∧ q % 2 = 1) then q + 1 else q

def ofRatio (p q : Nat) : Binary64 :=
  if p = 0 ∨ q = 0 then ⟨0, -1074⟩ else
  let e := max (floorLog2 p q - 52) (-1074)
  let (num, den) := if 0 ≤ e then (p, q * Nat.pow 2 e.toNat) else (p * Nat.pow 2 (-e).toNat, q)
  let m := roundHalfEven num den
  if m = Nat.pow 2 53 then ⟨Nat.pow 2 52, e + 1⟩ else ⟨m, e⟩

def roundNat (n : Nat) : Nat :=
  let x := ofRatio n 1
  if 0 ≤ x.exponent then x.mantissa * Nat.pow 2 x.exponent.toNat else n

/-- Search for the largest power of ten `10 ^ k`, from `k` down, with a multiple in the
interval `[low, high] * 2 ^ e` (ends included if `closed`); the multiple nearest to
`v * 2 ^ e` wins. The result is `(digits, k)`. -/
def search (v low high : Nat) (e : Int) (closed : Bool) : Nat → Int → Nat × Int
  | 0, k => (v, k)
  | fuel + 1, k =>
    let den := Nat.pow 2 (-e).toNat * Nat.pow 10 k.toNat
    let scale (x : Nat) := x * Nat.pow 2 e.toNat * Nat.pow 10 (-k).toNat
    let a := scale low
    let c := scale high
    let dmin := if closed then (a + den - 1) / den else a / den + 1
    let dmax := if closed then c / den else if c % den = 0 then c / den - 1 else c / den
    if dmin ≤ dmax then (min (max (roundHalfEven (scale v) den) dmin) dmax, k)
    else search v low high e closed fuel (k - 1)

def shortest (x : Binary64) : Nat × Int :=
  let m := x.mantissa
  if m = 0 then (0, 0) else
  let lowerGap := if m = Nat.pow 2 52 ∧ x.exponent > -1074 then 1 else 2
  let e := x.exponent - 2
  let bits : Int := ((4 * m).log2 + 1 : Nat) + e
  search (4 * m) (4 * m - lowerGap) (4 * m + 2) e (m % 2 = 0) 64 (bits * 30103 / 100000 + 2)

end Binary64
end ControlPlane

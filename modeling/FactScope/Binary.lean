/-!
Binary fractions of 53 bits. A ratio is rounded to the nearest of them, a tie going to the even
mantissa, and each of them is written by the fewest decimal digits that read back.
-/

namespace FactScope

/-- The number `mantissa · 2 ^ exponent`. -/
structure Binary where
  mantissa : Nat
  exponent : Int
deriving DecidableEq, Repr

namespace Binary

/-- `n · base ^ power`; negative powers leave `n` as it is. -/
def scale (base n : Nat) (power : Int) : Nat :=
  n * Nat.pow base power.toNat

def shift (base n d : Nat) (power : Int) : Nat × Nat :=
  (scale base n (-power), scale base d power)

/-- The power of `base` of the first digit of `n / d`, given a guess that is at most one too
high. -/
def leading (base n d : Nat) (guess : Int) : Int :=
  let (n, d) := shift base n d guess
  if d ≤ n then guess else guess - 1

/-- The whole number nearest to `n / d`; of two the even one. -/
def roundDiv (n d : Nat) : Nat :=
  let rest := 2 * (n % d)
  if rest < d ∨ (rest = d ∧ n / d % 2 = 0) then n / d else n / d + 1

def leastExponent : Int := -1074

def greatestExponent : Int := 971

def zero : Binary := ⟨0, leastExponent⟩

/-- The fraction with a mantissa of at most 53 bits; one that has become too long by rounding is
a power of two. -/
def ofMantissa (mantissa : Nat) (exponent : Int) : Binary :=
  if mantissa = Nat.pow 2 53 then ⟨Nat.pow 2 52, exponent + 1⟩ else ⟨mantissa, exponent⟩

def nearest (n d : Nat) : Binary :=
  if n = 0 then zero
  else
    let exponent := max (leading 2 n d ((n.log2 : Int) - d.log2) - 52) leastExponent
    let (n, d) := shift 2 n d exponent
    ofMantissa (roundDiv n d) exponent

def isTooLarge (b : Binary) : Bool :=
  greatestExponent < b.exponent

def ratio (b : Binary) : Nat × Nat :=
  shift 2 b.mantissa 1 (-b.exponent)

def ofDecimal (digits : Nat) (exponent : Int) : Binary :=
  let (n, d) := shift 10 digits 1 (-exponent)
  nearest n d

def digitCount (n : Nat) : Nat :=
  (Nat.toDigits 10 n).length

/-- The nearest of the decimals with `count` digits that read back as the fraction: the digits and
the power of ten of the last one. -/
def withDigits? (b : Binary) (count : Nat) : Option (Nat × Int) :=
  let (n, d) := b.ratio
  let power := leading 10 n d ((digitCount n : Int) - digitCount d) - (count - 1 : Nat)
  let (n, d) := shift 10 n d power
  let near := roundDiv n d
  let far := if near = n / d then n / d + 1 else n / d
  ([near, far].find? fun digits => ofDecimal digits power = b).map fun digits => (digits, power)

/-- The fewest digits that read back, with the power of ten of the last one. Seventeen always
do. -/
def shortest (b : Binary) : Nat × Int :=
  ((List.range' 1 17).findSome? b.withDigits?).getD (0, 0)

theorem ofDecimal_of_withDigits? {b : Binary} {count digits : Nat} {power : Int}
    (h : b.withDigits? count = some (digits, power)) : ofDecimal digits power = b := by
  unfold withDigits? at h
  obtain ⟨found, hfound, hpair⟩ := Option.map_eq_some_iff.mp h
  simp only [Prod.mk.injEq] at hpair
  obtain ⟨rfl, rfl⟩ := hpair
  simpa using List.find?_some hfound

theorem withDigits?_of_shortest {b : Binary} {digits : Nat} {power : Int}
    (h : (List.range' 1 17).findSome? b.withDigits? = some (digits, power)) :
    ∃ count, b.withDigits? count = some (digits, power) ∧
      ∀ fewer, 1 ≤ fewer → fewer < count → b.withDigits? fewer = none := by
  obtain ⟨before, count, after, hrange, hsome, hnone⟩ := List.findSome?_eq_some_iff.mp h
  refine ⟨count, hsome, fun fewer hone hless => hnone fewer ?_⟩
  have hsorted : (before ++ count :: after).Pairwise (· < ·) := hrange ▸ List.pairwise_lt_range'
  have hmem : fewer ∈ before ++ count :: after := by
    have hcount : count ∈ List.range' 1 17 := by rw [hrange]; simp
    rw [← hrange]
    simp only [List.mem_range'_1] at hcount ⊢
    omega
  rcases List.mem_append.mp hmem with hbefore | hafter
  · exact hbefore
  · rcases List.mem_cons.mp hafter with rfl | hafter
    · exact absurd hless (Nat.lt_irrefl _)
    · have := (List.pairwise_append.mp hsorted).2.1
      have := List.rel_of_pairwise_cons this hafter
      omega

def sum (a b : Int × Int) : Int × Int :=
  let exponent := min a.2 b.2
  (a.1 * Nat.pow 2 (a.2 - exponent).toNat + b.1 * Nat.pow 2 (b.2 - exponent).toNat, exponent)

example : (nearest 3 10).shortest = (3, -1) ∧
    (ofDecimal 9007199254740993 0).shortest = (9007199254740992, 0) := by
  decide +kernel

example : (ofDecimal 5 (-324)).shortest = (5, -324) ∧ ofDecimal 2 (-324) = zero ∧
    (ofDecimal 17976931348623159 292).isTooLarge = true := by
  decide +kernel

end Binary

end FactScope

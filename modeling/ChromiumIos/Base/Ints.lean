/-!
# Machine integers

The values an `int` (32 bits) and an `NSInteger` (64 bits) hold, as integers.
`wrapInt`, `wrapNSInteger` and `wrapNSUInteger` are conversions to these types: a value out of
range is reduced to its low bits.
-/

namespace ChromiumIos

/-- `INT_MAX`. -/
def intMax : Int := 2147483647

/-- `INT_MIN`. -/
def intMin : Int := -2147483648

/-- The `int` with the low 32 bits of `x`. -/
def wrapInt (x : Int) : Int := x.bmod 4294967296

/-- The `NSInteger` with the low 64 bits of `x`. -/
def wrapNSInteger (x : Int) : Int := x.bmod 18446744073709551616

/-- The `NSUInteger` with the low 64 bits of `x`. -/
def wrapNSUInteger (x : Int) : Int := x % 18446744073709551616

theorem wrapInt_eq {x : Int} (hlow : intMin ≤ x) (hhigh : x ≤ intMax) : wrapInt x = x := by
  unfold intMin at hlow
  unfold intMax at hhigh
  exact Int.bmod_eq_of_le (by omega) (by omega)

/-- An index, or the `-1` of no index, is kept. -/
theorem wrapInt_of_index {x : Int} (hlow : -1 ≤ x) (hhigh : x ≤ intMax) : wrapInt x = x := by
  refine wrapInt_eq ?_ hhigh
  unfold intMin
  omega

/-- A conversion does not make a count larger. -/
theorem wrapInt_natCast_le (n : Nat) : wrapInt n ≤ n := by
  unfold wrapInt
  rw [Int.bmod_def]
  split <;> omega

/-- A sum of two non-negative `int`s that overflows is negative. -/
theorem wrapInt_neg {x : Int} (hlow : intMax < x) (hhigh : x ≤ 2 * intMax) : wrapInt x < 0 := by
  unfold intMax at hlow hhigh
  unfold wrapInt
  rw [Int.bmod_def]
  split <;> omega

/-- An `int` is an `NSInteger`. -/
theorem wrapNSInteger_eq {x : Int} (hlow : intMin ≤ x) (hhigh : x ≤ intMax) :
    wrapNSInteger x = x := by
  unfold intMin at hlow
  unfold intMax at hhigh
  exact Int.bmod_eq_of_le (by omega) (by omega)

theorem int32_range (x : Int32) : intMin ≤ x.toInt ∧ x.toInt ≤ intMax := by
  have hlow := x.le_toInt
  have hhigh := x.toInt_lt
  unfold intMin intMax
  omega

/-- An `NSInteger` that is passed as an `NSUInteger` comes back. -/
theorem wrapNSInteger_wrapNSUInteger (x : Int) :
    wrapNSInteger (wrapNSUInteger x) = wrapNSInteger x :=
  Int.emod_bmod x 18446744073709551616

end ChromiumIos

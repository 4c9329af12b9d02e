/-!
# Signed machine words

Durations and the seconds of a timestamp are kept in signed 64-bit words.  This file fixes that
range and the clamp onto it: `clampWord` leaves a number of the range alone and sends every other
number to the nearer end.
-/

set_option autoImplicit false

namespace Cadence

/-- The least number that a signed 64-bit word holds. -/
abbrev wordMin : Int := -9223372036854775808

/-- The greatest number that a signed 64-bit word holds. -/
abbrev wordMax : Int := 9223372036854775807

/-- The number of the word range nearest to `n`. -/
def clampWord (n : Int) : Int :=
  if n < wordMin then wordMin else if wordMax < n then wordMax else n

theorem wordMin_le_clampWord (n : Int) : wordMin ≤ clampWord n := by
  unfold clampWord
  split
  · exact Int.le_refl _
  · split
    · decide
    · omega

theorem clampWord_le_wordMax (n : Int) : clampWord n ≤ wordMax := by
  unfold clampWord
  split
  · decide
  · split
    · exact Int.le_refl _
    · omega

theorem clampWord_of_mem {n : Int} (hmin : wordMin ≤ n) (hmax : n ≤ wordMax) : clampWord n = n := by
  unfold clampWord
  rw [if_neg (by omega), if_neg (by omega)]

theorem clampWord_mono {m n : Int} (h : m ≤ n) : clampWord m ≤ clampWord n := by
  have hn := wordMin_le_clampWord n
  have hm := clampWord_le_wordMax m
  unfold clampWord at *
  split <;> split <;> (try split) <;> (try split) <;> omega

end Cadence

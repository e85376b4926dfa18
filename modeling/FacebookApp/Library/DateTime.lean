import Mathlib.Tactic.Common

/-!
# Dart dates and durations

Points in time and the differences between them, both in microseconds.
-/

set_option autoImplicit false

namespace Dart

structure Duration where
  microseconds : Int
  deriving DecidableEq, Repr

structure DateTime where
  microsecondsSinceEpoch : Int
  deriving DecidableEq, Repr

namespace Duration

def microsecondsPerHour : Int := 60 * 60 * 1000 * 1000

/-- The whole hours of a duration, rounded towards zero. -/
def inHours (duration : Duration) : Int := duration.microseconds.tdiv microsecondsPerHour

end Duration

namespace DateTime

def fromMillisecondsSinceEpoch (milliseconds : Int) : DateTime := ⟨milliseconds * 1000⟩

def difference (dateTime other : DateTime) : Duration :=
  ⟨dateTime.microsecondsSinceEpoch - other.microsecondsSinceEpoch⟩

theorem inHours_difference_antitone (now : DateTime) {older newer : Int}
    (le : older ≤ newer) :
    (now.difference (fromMillisecondsSinceEpoch newer)).inHours ≤
      (now.difference (fromMillisecondsSinceEpoch older)).inHours := by
  apply Int.tdiv_le_tdiv (by decide)
  simp only [difference, fromMillisecondsSinceEpoch]
  omega

end DateTime

end Dart

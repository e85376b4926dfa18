import Mathlib.Algebra.Order.Field.Basic
import Mathlib.Algebra.Order.Field.Rat
import Mathlib.Tactic.Linarith
import Mathlib.Tactic.Positivity
import Mathlib.Tactic.Ring

/-!
# Implicit animations

A number that moves to its latest target. A new target starts a new movement from
wherever the number is; the target it has already leaves the movement under way as it
is. How much of its way a movement has covered is a parameter.
-/

set_option autoImplicit false

namespace Flutter

/-- The part of its way that a movement has covered, by the milliseconds it has been going
on and the milliseconds it takes. -/
abbrev Motion := Nat → Nat → ℚ

namespace Motion

/-- What is known of a movement: it goes forward, and is over when its time has passed and
not before. -/
structure Laws (motion : Motion) : Prop where
  nonneg : ∀ elapsed duration, 0 ≤ motion elapsed duration
  ended : ∀ {elapsed duration}, duration ≤ elapsed → motion elapsed duration = 1
  running : ∀ {elapsed duration}, elapsed < duration → motion elapsed duration < 1
  mono : ∀ {elapsed later} (duration), elapsed ≤ later →
    motion elapsed duration ≤ motion later duration

/-- The movement with `Curves.linear`. -/
def linear : Motion := fun elapsed duration =>
  if duration ≤ elapsed then 1 else elapsed / duration

theorem linear_laws : linear.Laws where
  nonneg := by
    intro elapsed duration
    unfold linear
    split
    · exact zero_le_one
    · positivity
  ended := fun ended => if_pos ended
  running := by
    intro elapsed duration running
    have positive : (0 : ℚ) < duration := by exact_mod_cast Nat.zero_lt_of_lt running
    rw [linear, if_neg (Nat.not_le.mpr running), div_lt_one positive]
    exact_mod_cast running
  mono := by
    intro elapsed later duration le
    unfold linear
    by_cases expired : duration ≤ elapsed
    · rw [if_pos expired, if_pos (expired.trans le)]
    · have positive : (0 : ℚ) < duration := by
        exact_mod_cast Nat.zero_lt_of_lt (Nat.not_le.mp expired)
      rw [if_neg expired]
      split
      · rw [div_le_one positive]
        exact_mod_cast (Nat.not_le.mp expired).le
      · gcongr

end Motion

structure Animated where
  start : ℚ
  target : ℚ
  /-- How long the last movement has been going on, in milliseconds. -/
  elapsed : Nat
  duration : Nat
  deriving DecidableEq

namespace Animated

def settled (value : ℚ) : Animated := ⟨value, value, 0, 0⟩

def hasEnded (animated : Animated) : Bool := decide (animated.duration ≤ animated.elapsed)

def value (motion : Motion) (animated : Animated) : ℚ :=
  animated.start + (animated.target - animated.start) * motion animated.elapsed animated.duration

def retarget (motion : Motion) (target : ℚ) (duration : Nat) (animated : Animated) : Animated :=
  if target = animated.target then animated
  else { start := animated.value motion, target, elapsed := 0, duration }

def elapse (milliseconds : Nat) (animated : Animated) : Animated :=
  { animated with elapsed := animated.elapsed + milliseconds }

variable {motion : Motion} {animated left right : Animated} {total : ℚ}

@[simp] theorem target_retarget (motion : Motion) (target : ℚ) (duration : Nat)
    (animated : Animated) : (animated.retarget motion target duration).target = target := by
  unfold retarget
  split
  · rename_i same
    exact same.symm
  · rfl

@[simp] theorem target_elapse (milliseconds : Nat) (animated : Animated) :
    (animated.elapse milliseconds).target = animated.target := rfl

theorem hasEnded_elapse (ended : animated.hasEnded = true) (milliseconds : Nat) :
    (animated.elapse milliseconds).hasEnded = true :=
  decide_eq_true (Nat.le_add_right_of_le (of_decide_eq_true ended))

theorem value_of_hasEnded (laws : motion.Laws) (ended : animated.hasEnded = true) :
    animated.value motion = animated.target := by
  rw [value, laws.ended (of_decide_eq_true ended)]
  ring

/-- Two numbers with one sum that move at the same time. -/
structure Complementary (total : ℚ) (left right : Animated) : Prop where
  start : left.start + right.start = total
  target : left.target + right.target = total
  elapsed : left.elapsed = right.elapsed
  duration : left.duration = right.duration

namespace Complementary

theorem value_add (complementary : Complementary total left right) (motion : Motion) :
    left.value motion + right.value motion = total := by
  have start := complementary.start
  have target := complementary.target
  simp only [value, complementary.elapsed, complementary.duration]
  generalize motion right.elapsed right.duration = covered
  calc left.start + (left.target - left.start) * covered +
        (right.start + (right.target - right.start) * covered)
      = (left.start + right.start) +
          ((left.target + right.target) - (left.start + right.start)) * covered := by ring
    _ = total := by rw [start, target]; ring

theorem retarget (complementary : Complementary total left right) (motion : Motion)
    {target target' : ℚ} (sum : target + target' = total) (duration : Nat) :
    Complementary total (left.retarget motion target duration)
      (right.retarget motion target' duration) := by
  have before := complementary.target
  by_cases same : target = left.target
  · have same' : target' = right.target := by linarith
    simpa [Animated.retarget, same, same'] using complementary
  · have other : target' ≠ right.target := by
      intro same'
      exact same (by linarith)
    simp only [Animated.retarget, if_neg same, if_neg other]
    exact ⟨complementary.value_add motion, sum, rfl, rfl⟩

theorem elapse (complementary : Complementary total left right) (milliseconds : Nat) :
    Complementary total (left.elapse milliseconds) (right.elapse milliseconds) :=
  ⟨complementary.start, complementary.target,
    by simp [Animated.elapse, complementary.elapsed], complementary.duration⟩

end Complementary

/-- A number that has arrived. -/
structure RestsAt (value : ℚ) (animated : Animated) : Prop where
  target : animated.target = value
  ended : animated.hasEnded = true

theorem restsAt_settled (value : ℚ) : (settled value).RestsAt value := ⟨rfl, rfl⟩

namespace RestsAt

variable {value : ℚ}

theorem elapse (rests : animated.RestsAt value) (milliseconds : Nat) :
    (animated.elapse milliseconds).RestsAt value :=
  ⟨rests.target, hasEnded_elapse rests.ended milliseconds⟩

theorem value_eq (rests : animated.RestsAt value) (laws : motion.Laws) :
    animated.value motion = value := by
  rw [value_of_hasEnded laws rests.ended, rests.target]

theorem retarget_self (rests : animated.RestsAt value) (motion : Motion) (duration : Nat) :
    animated.retarget motion value duration = animated :=
  if_pos rests.target.symm

end RestsAt

/-- A movement that began some milliseconds ago, as it was begun or over. -/
structure Begun (start target : ℚ) (duration elapsed : Nat) (animated : Animated) : Prop where
  target_eq : animated.target = target
  cases : animated = ⟨start, target, elapsed, duration⟩ ∨
    duration ≤ elapsed ∧ animated.hasEnded = true

namespace Begun

variable {start target : ℚ} {duration elapsed : Nat}

theorem elapse (begun : Begun start target duration elapsed animated) (milliseconds : Nat) :
    Begun start target duration (elapsed + milliseconds) (animated.elapse milliseconds) := by
  refine ⟨begun.target_eq, ?_⟩
  rcases begun.cases with rfl | ⟨expired, ended⟩
  · exact .inl rfl
  · exact .inr ⟨Nat.le_add_right_of_le expired, hasEnded_elapse ended milliseconds⟩

theorem value_eq (begun : Begun start target duration elapsed animated) (laws : motion.Laws) :
    animated.value motion = start + (target - start) * motion elapsed duration := by
  rcases begun.cases with rfl | ⟨expired, ended⟩
  · rfl
  · rw [value_of_hasEnded laws ended, begun.target_eq, laws.ended expired]
    ring

theorem retarget_self (begun : Begun start target duration elapsed animated) (motion : Motion)
    (next : Nat) : animated.retarget motion target next = animated :=
  if_pos begun.target_eq.symm

end Begun

/-- A number at rest begins to move. -/
theorem RestsAt.begun_retarget {value target : ℚ} (rests : animated.RestsAt value)
    (laws : motion.Laws) (other : target ≠ value) (duration : Nat) :
    Begun value target duration 0 (animated.retarget motion target duration) := by
  refine ⟨target_retarget _ _ _ _, .inl ?_⟩
  rw [retarget, if_neg (rests.target.symm ▸ other), rests.value_eq laws]

theorem RestsAt.begun {start target : ℚ} (rests : animated.RestsAt target) (duration : Nat) :
    Begun start target duration duration animated :=
  ⟨rests.target, .inr ⟨Nat.le_refl duration, rests.ended⟩⟩

/-! ## A width that changes hands -/

/-- Who has a width: the one that gives it, neither, or the one that takes it. -/
inductive Holder where
  | giver
  | neither
  | taker
  deriving DecidableEq

namespace Holder

def giverTarget (width : ℚ) : Holder → ℚ
  | .giver => width
  | .neither | .taker => 0

def takerTarget (width : ℚ) : Holder → ℚ
  | .taker => width
  | .giver | .neither => 0

/-- The width goes from the giver to the taker and not back. -/
def Precedes : Holder → Holder → Prop
  | .giver, _ => True
  | .neither, later => later ≠ .giver
  | .taker, later => later = .taker

end Holder

/-- A width that changes hands: the taker does not begin before the giver, and both need the
same time. -/
inductive Handover (width : ℚ) (duration : Nat) (giver taker : Animated) : Holder → Prop where
  | held (full : giver.RestsAt width) (empty : taker.RestsAt 0) :
      Handover width duration giver taker .giver
  | given {elapsed : Nat} (gives : giver.Begun width 0 duration elapsed)
      (empty : taker.RestsAt 0) : Handover width duration giver taker .neither
  | taken {elapsed later : Nat} (gives : giver.Begun width 0 duration elapsed)
      (takes : taker.Begun 0 width duration later) (ordered : later ≤ elapsed) :
      Handover width duration giver taker .taker

namespace Handover

variable {width : ℚ} {duration : Nat} {giver taker : Animated} {holder : Holder}

theorem elapse (handover : Handover width duration giver taker holder) (milliseconds : Nat) :
    Handover width duration (giver.elapse milliseconds) (taker.elapse milliseconds) holder := by
  cases handover with
  | held full empty => exact .held (full.elapse _) (empty.elapse _)
  | given gives empty => exact .given (gives.elapse _) (empty.elapse _)
  | taken gives takes ordered =>
      exact .taken (gives.elapse _) (takes.elapse _) (Nat.add_le_add_right ordered _)

/-- The two never want more than the width. -/
theorem value_add_le (handover : Handover width duration giver taker holder)
    (laws : motion.Laws) (nonneg : 0 ≤ width) :
    giver.value motion + taker.value motion ≤ width := by
  cases handover with
  | held full empty => rw [full.value_eq laws, empty.value_eq laws, add_zero]
  | @given elapsed gives empty =>
      have covered := mul_nonneg nonneg (laws.nonneg elapsed duration)
      rw [gives.value_eq laws, empty.value_eq laws]
      linarith
  | @taken elapsed later gives takes ordered =>
      have behind := mul_le_mul_of_nonneg_left (laws.mono duration ordered) nonneg
      rw [gives.value_eq laws, takes.value_eq laws]
      linarith

theorem retarget (handover : Handover width duration giver taker holder) (laws : motion.Laws)
    (positive : 0 < width) {next : Holder} (precedes : holder.Precedes next) :
    Handover width duration (giver.retarget motion (next.giverTarget width) duration)
      (taker.retarget motion (next.takerTarget width) duration) next := by
  cases handover with
  | held full empty =>
      cases next with
      | giver =>
          rw [Holder.giverTarget, Holder.takerTarget, full.retarget_self, empty.retarget_self]
          exact .held full empty
      | neither =>
          rw [Holder.giverTarget, Holder.takerTarget, empty.retarget_self]
          exact .given (full.begun_retarget laws positive.ne _) empty
      | taker =>
          exact .taken (full.begun_retarget laws positive.ne _)
            (empty.begun_retarget laws positive.ne' _) (Nat.le_refl 0)
  | given gives empty =>
      cases next with
      | giver => exact absurd rfl precedes
      | neither =>
          rw [Holder.giverTarget, Holder.takerTarget, gives.retarget_self, empty.retarget_self]
          exact .given gives empty
      | taker =>
          rw [Holder.giverTarget, gives.retarget_self]
          exact .taken gives (empty.begun_retarget laws positive.ne' _) (Nat.zero_le _)
  | taken gives takes ordered =>
      cases precedes
      rw [Holder.giverTarget, Holder.takerTarget, gives.retarget_self, takes.retarget_self]
      exact .taken gives takes ordered

end Handover

theorem handover_of_rests {width : ℚ} {giver taker : Animated} {holder : Holder}
    (atGiver : giver.RestsAt (holder.giverTarget width))
    (atTaker : taker.RestsAt (holder.takerTarget width)) (duration : Nat) :
    Handover width duration giver taker holder := by
  cases holder with
  | giver => exact .held atGiver atTaker
  | neither => exact .given (atGiver.begun duration) atTaker
  | taker => exact .taken (atGiver.begun duration) (atTaker.begun duration) (Nat.le_refl _)

end Animated

end Flutter

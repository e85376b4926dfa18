import Mathlib.Tactic.Common

/-!
# Animation controllers

Clocks that run from the moment they are started until a duration has passed, and tell
their listeners about every tick. How a controller measures the time is a parameter.
-/

set_option autoImplicit false

namespace Flutter

inductive AnimationStatus where
  | dismissed
  | forward
  | completed
  deriving DecidableEq, Repr

/-- Controllers with what one can ask of them and do to them. -/
structure AnimationControllers where
  Controller : Type
  initial : Controller
  status : Controller → AnimationStatus
  /-- The time since the first tick, in milliseconds. -/
  elapsed : Controller → Option Nat
  reset : Controller → Controller
  forward (duration : Nat) : Controller → Controller
  /-- One frame of the given length. Only a running controller ticks. -/
  tick (duration milliseconds : Nat) : Controller → Option Controller

namespace AnimationControllers

/-- What is known of controllers. The first tick only starts the measuring, and the end
comes with the first tick after more than the duration. -/
structure Laws (controllers : AnimationControllers) : Prop where
  status_initial : controllers.status controllers.initial = .dismissed
  status_reset : ∀ controller, controllers.status (controllers.reset controller) = .dismissed
  status_forward : ∀ {duration}, 0 < duration → ∀ controller,
    controllers.status (controllers.forward duration controller) = .forward
  elapsed_forward : ∀ duration controller,
    controllers.elapsed (controllers.forward duration controller) = none
  tick_idle : ∀ {controller}, controllers.status controller ≠ .forward →
    ∀ duration milliseconds, controllers.tick duration milliseconds controller = none
  tick_first : ∀ {controller}, controllers.status controller = .forward →
    controllers.elapsed controller = none → ∀ duration milliseconds, ∃ next,
      controllers.tick duration milliseconds controller = some next ∧
        controllers.status next = .forward ∧ controllers.elapsed next = some 0
  tick_later : ∀ {controller elapsed}, controllers.status controller = .forward →
    controllers.elapsed controller = some elapsed → ∀ duration milliseconds, ∃ next,
      controllers.tick duration milliseconds controller = some next ∧
        controllers.status next =
          (if duration < elapsed + milliseconds then .completed else .forward) ∧
        controllers.elapsed next = some (elapsed + milliseconds)

end AnimationControllers

/-! ## Controllers that keep what they measured -/

structure AnimationController where
  status : AnimationStatus
  elapsed : Option Nat
  deriving DecidableEq, Repr

namespace AnimationController

def forward (duration : Nat) (_ : AnimationController) : AnimationController where
  status := if duration = 0 then .completed else .forward
  elapsed := none

def tick (duration milliseconds : Nat) (controller : AnimationController) :
    Option AnimationController :=
  if controller.status = .forward then
    let elapsed := match controller.elapsed with
      | none => 0
      | some elapsed => elapsed + milliseconds
    some {
      status := if duration < elapsed then .completed else .forward
      elapsed := some elapsed }
  else none

def controllers : AnimationControllers where
  Controller := AnimationController
  initial := ⟨.dismissed, none⟩
  status := status
  elapsed := elapsed
  reset := fun _ => ⟨.dismissed, none⟩
  forward := forward
  tick := tick

theorem controllers_laws : controllers.Laws where
  status_initial := rfl
  status_reset := fun _ => rfl
  status_forward := fun positive _ => if_neg (Nat.ne_of_gt positive)
  elapsed_forward := fun _ _ => rfl
  tick_idle := fun idle _ _ => if_neg idle
  tick_first := by
    intro controller running unmeasured duration milliseconds
    refine ⟨⟨.forward, some 0⟩, ?_, rfl, rfl⟩
    simp only [controllers] at running unmeasured ⊢
    simp [tick, running, unmeasured]
  tick_later := by
    intro controller elapsed running measured duration milliseconds
    refine ⟨⟨if duration < elapsed + milliseconds then .completed else .forward,
      some (elapsed + milliseconds)⟩, ?_, rfl, rfl⟩
    simp only [controllers] at running measured ⊢
    simp [tick, running, measured]

end AnimationController

end Flutter

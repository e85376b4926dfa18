import FacebookApp.Library.AnimationController
import FacebookApp.Library.EventSystem

/-!
# Bottom bar page transition

The package that shows the page of a bottom bar and moves to another one when the index
it is given changes. It keeps three indices besides that one, with -1 for none.
-/

set_option autoImplicit false

namespace FacebookApp

open Flutter

structure BottomBarPageTransition (controllers : AnimationControllers) where
  displayingIndex : Int := -1
  animatingIndex : Int := -1
  tempAnimatingIndex : Int := -1
  index : Int
  animationController : controllers.Controller := controllers.initial
  /-- The pages that were built last: the displayed one and maybe one that comes in. -/
  pages : List Int := []

namespace BottomBarPageTransition

variable {controllers : AnimationControllers}

/-- The listener of the animation controller. -/
def listener (transition : BottomBarPageTransition controllers) :
    BottomBarPageTransition controllers :=
  match controllers.status transition.animationController with
  | .forward => { transition with tempAnimatingIndex := transition.animatingIndex }
  | .dismissed =>
      if transition.tempAnimatingIndex ≠ -1 then
        { transition with displayingIndex := transition.tempAnimatingIndex }
      else transition
  | .completed =>
      { transition with
        displayingIndex := transition.animatingIndex
        animatingIndex := -1
        tempAnimatingIndex := -1 }

def tick (duration milliseconds : Nat) (transition : BottomBarPageTransition controllers) :
    BottomBarPageTransition controllers :=
  match controllers.tick duration milliseconds transition.animationController with
  | some animationController =>
      { transition with animationController := animationController }.listener
  | none => transition

/-- The callback after the frame of a changed index. -/
def postFrameCallback (duration : Nat) (currentIndex : Int)
    (transition : BottomBarPageTransition controllers) : BottomBarPageTransition controllers :=
  let transition := { transition with animatingIndex := currentIndex }
  let transition :=
    { transition with
      animationController := controllers.reset transition.animationController }.listener
  -- Without a duration the value jumps, and its listener still finds the reset status.
  let transition := if duration = 0 then transition.listener else transition
  { transition with
    animationController := controllers.forward duration transition.animationController }

def canAnimate (transition : BottomBarPageTransition controllers) : Bool :=
  transition.animatingIndex ≠ -1 && transition.displayingIndex ≠ transition.animatingIndex

/-- The first build displays the index that `initState` took over. -/
def display (transition : BottomBarPageTransition controllers) :
    BottomBarPageTransition controllers :=
  if transition.displayingIndex = -1 then
    { transition with displayingIndex := transition.index }
  else transition

def buildPages (transition : BottomBarPageTransition controllers) :
    BottomBarPageTransition controllers :=
  { transition with
    pages := transition.displayingIndex ::
      if transition.canAnimate then [transition.animatingIndex] else [] }

/-- `build` with all that follows in its frame. -/
def build (duration : Nat) (currentIndex : Int)
    (transition : BottomBarPageTransition controllers) : BottomBarPageTransition controllers :=
  if transition.index ≠ currentIndex then
    { transition.display with index := currentIndex }.buildPages.postFrameCallback
      duration currentIndex
  else transition.display.buildPages

/-- One frame: the time since the one before and the index the widget has in it. -/
structure Frame where
  milliseconds : Nat
  currentIndex : Nat
  deriving DecidableEq

def step (duration : Nat) (transition : BottomBarPageTransition controllers) (frame : Frame) :
    Option (BottomBarPageTransition controllers) :=
  some ((transition.tick duration frame.milliseconds).build duration frame.currentIndex)

def system (controllers : AnimationControllers) (duration : Nat) :
    EventSystem (BottomBarPageTransition controllers) Frame where
  step := step duration

/-- The state after `initState`. -/
def initial (controllers : AnimationControllers) (currentIndex : Nat) :
    BottomBarPageTransition controllers where
  index := currentIndex

end BottomBarPageTransition

end FacebookApp

import FacebookApp.Library.ImplicitAnimation
import FacebookApp.Library.StreamBuilder
import FacebookApp.Ui.MenuPage

/-!
# Sections of the menu page

The containers of the two hidden menus, which open and close in 300 milliseconds. They
are rebuilt in frames: a press shows in the frame after it, and a movement is counted
from the frame that started it.
-/

set_option autoImplicit false

namespace FacebookApp

open Dart Flutter

/-- The menu page and what was drawn in its last frame. -/
structure MenuSections where
  page : MenuPage
  /-- The snapshots that the builders of the containers were last built with. -/
  snapshots : HiddenMenu → Option ℚ
  containers : HiddenMenu → Option Animated
  sinceFrame : Nat

namespace MenuSections

def containerHeight (hiddenMenuHeight turns : ℚ) : ℚ :=
  if turns = 1 / 2 then hiddenMenuHeight else 0

/-- The builder of a container, which shows nothing without data. -/
def buildContainer (motion : Motion) (hiddenMenuHeight : ℚ) :
    Option ℚ → Option Animated → Option Animated
  | none, _ => none
  | some turns, none => some (.settled (containerHeight hiddenMenuHeight turns))
  | some turns, some container =>
      some (container.retarget motion (containerHeight hiddenMenuHeight turns) 300)

variable (snapshots : Snapshots) (motion : Motion) (hiddenMenuHeight : HiddenMenu → ℚ)

/-- The page after its first frame. -/
def initial : MenuSections :=
  let first := fun menu =>
    snapshots.first (MenuPage.initial.isolate.store.buttons menu).turnsSubject
  { page := .initial
    snapshots := first
    containers := fun menu => buildContainer motion (hiddenMenuHeight menu) (first menu) none
    sinceFrame := 0 }

/-- A frame: the movements are brought up to its time and the builders are built. -/
def frame (page : MenuPage) (sections : MenuSections) : MenuSections :=
  let later := fun menu =>
    snapshots.later (page.isolate.store.buttons menu).turnsSubject (sections.snapshots menu)
  { page
    snapshots := later
    containers := fun menu => buildContainer motion (hiddenMenuHeight menu) (later menu)
      ((sections.containers menu).map (·.elapse sections.sinceFrame))
    sinceFrame := 0 }

def step (sections : MenuSections) (event : MenuPage.Event) : Option MenuSections :=
  (MenuPage.system.step sections.page event).map fun page =>
    if event = .build then sections.frame snapshots motion hiddenMenuHeight page
    else { sections with page, sinceFrame := sections.sinceFrame + event.elapsed }

def system : EventSystem MenuSections MenuPage.Event where
  step := step snapshots motion hiddenMenuHeight

def elapsed (events : List MenuPage.Event) : Nat := (events.map (·.elapsed)).sum

/-- The events from the first frame on. -/
def fromFrame (events : List MenuPage.Event) : List MenuPage.Event :=
  events.dropWhile (· != .build)

/-- The time from the first frame to the last one. -/
def framed (events : List MenuPage.Event) : Nat :=
  elapsed ((fromFrame events).reverse.dropWhile (· != .build))

end MenuSections

end FacebookApp

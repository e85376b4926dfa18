import FacebookApp.Library.ImplicitAnimation
import FacebookApp.Library.StreamBuilder
import FacebookApp.Ui.MainPage

/-!
# Indicator bar

The line above the tabs of the navigation bar. Every tab has a row of its own: two
animated spacers at the sides of a coloured container that takes what they leave. The
rows are rebuilt in frames, with the index published by then. Before they have data
there are no spacers, and every row is coloured.
-/

set_option autoImplicit false

namespace FacebookApp

open Dart Flutter

structure IndicatorRow where
  left : Animated
  right : Animated

namespace IndicatorRow

/-- What the spacers leave of the width, which is negative when they are too wide. -/
def rest (motion : Motion) (tabWidth : ℚ) (row : IndicatorRow) : ℚ :=
  tabWidth - row.left.value motion - row.right.value motion

/-- The width of the expanded container. -/
def coloured (motion : Motion) (tabWidth : ℚ) (row : IndicatorRow) : ℚ :=
  max 0 (row.rest motion tabWidth)

def Overflows (motion : Motion) (tabWidth : ℚ) (row : IndicatorRow) : Prop :=
  row.rest motion tabWidth < 0

def hasEnded (row : IndicatorRow) : Bool := row.left.hasEnded && row.right.hasEnded

end IndicatorRow

/-- The rows with spacers, built with the index `shown`. There is a row for every number;
those below the number of tabs are built. -/
structure IndicatorBar where
  shown : Int
  row : Nat → IndicatorRow

namespace IndicatorBar

def leftWidth (tabWidth : ℚ) (shown tab : Int) : ℚ := if shown - tab > 0 then tabWidth else 0

def rightWidth (tabWidth : ℚ) (shown tab : Int) : ℚ := if shown - tab < 0 then tabWidth else 0

def build (tabWidth : ℚ) (shown : Int) : IndicatorBar where
  shown := shown
  row := fun tab => {
    left := .settled (leftWidth tabWidth shown tab)
    right := .settled (rightWidth tabWidth shown tab) }

def rebuild (motion : Motion) (tabWidth : ℚ) (shown : Int) (delay : Nat) (bar : IndicatorBar) :
    IndicatorBar where
  shown := shown
  row := fun tab => {
    left := (bar.row tab).left.retarget motion (leftWidth tabWidth shown tab) delay
    right := (bar.row tab).right.retarget motion (rightWidth tabWidth shown tab) delay }

def elapse (milliseconds : Nat) (bar : IndicatorBar) : IndicatorBar :=
  { bar with
    row := fun tab => {
      left := (bar.row tab).left.elapse milliseconds
      right := (bar.row tab).right.elapse milliseconds } }

def rows (bar : IndicatorBar) : List IndicatorRow :=
  (List.range navigationData.length).map bar.row

def isAtRest (bar : IndicatorBar) : Bool := bar.rows.all fun row => row.hasEnded

end IndicatorBar

/-- The main page and the indicator as it was drawn in the last frame. -/
structure IndicatorView where
  page : MainPage
  /-- The snapshot that the builders of the spacers were last built with. -/
  snapshot : Option Int
  bar : Option IndicatorBar
  sinceFrame : Nat

namespace IndicatorView

inductive Event where
  | page (event : MainPage.Event)
  | frame
  deriving DecidableEq

variable (snapshots : Snapshots) (motion : Motion) (tabWidth : ℚ)

/-- The builders of the spacers. A build reads `currentDelay`, whose subject is seeded. -/
def buildBar (bloc : MainBloc) : Option Int → Option IndicatorBar → Option IndicatorBar
  | none, _ => none
  | some shown, none => some (.build tabWidth shown)
  | some shown, some bar =>
      some (bar.rebuild motion tabWidth shown (bloc.delay.value?.getD 0).toNat)

/-- The page after its first frame. -/
def initial : IndicatorView :=
  let bloc := MainPage.initial.bloc.store
  let first := snapshots.first bloc.index
  { page := .initial
    snapshot := first
    bar := buildBar motion tabWidth bloc first none
    sinceFrame := 0 }

/-- A frame: the movements are brought up to its time and the builders are built. -/
def frame (view : IndicatorView) : IndicatorView :=
  let bloc := view.page.bloc.store
  let later := snapshots.later bloc.index view.snapshot
  { page := view.page
    snapshot := later
    bar := buildBar motion tabWidth bloc later (view.bar.map (·.elapse view.sinceFrame))
    sinceFrame := 0 }

def elapsed : MainPage.Event → Nat
  | .elapse milliseconds => milliseconds
  | .pageTransition _ _ _ | .resume _ | .dispose => 0

def step (view : IndicatorView) : Event → Option IndicatorView
  | .page event =>
      (MainPage.system.step view.page event).map fun page =>
        { view with page, sinceFrame := view.sinceFrame + elapsed event }
  | .frame =>
      if view.page.mounted then some (view.frame snapshots motion tabWidth) else none

def system : EventSystem IndicatorView Event where
  step := step snapshots motion tabWidth

/-- The widths of the coloured containers. -/
def coloured (view : IndicatorView) : List ℚ :=
  match view.bar with
  | none => List.replicate navigationData.length tabWidth
  | some bar => bar.rows.map fun row => row.coloured motion tabWidth

def Overflows (view : IndicatorView) : Prop :=
  ∃ bar, view.bar = some bar ∧ ∃ row ∈ bar.rows, row.Overflows motion tabWidth

/-- A page transition is asked for when the indicator has arrived and was drawn at rest. -/
def waitsForIndicator (view : IndicatorView) : Event → Bool
  | .page (.pageTransition _ _ _) =>
      view.page.bloc.pending.isEmpty &&
        view.bar.all fun bar =>
          view.page.bloc.store.index.value? == some bar.shown && bar.isAtRest
  | .page _ | .frame => true

end IndicatorView

end FacebookApp

import FacebookApp.Library.Isolate
import Mathlib.Algebra.Order.Field.Rat

/-!
# Hidden menu button

A button with an arrow that turns when its menu is shown. It keeps a flag of its
own and calls back whoever shows the menu.
-/

set_option autoImplicit false

namespace FacebookApp

open Dart

structure HiddenMenuButton where
  turnsSubject : BehaviorSubject ℚ
  isShowing : Bool := false
  deriving DecidableEq

namespace HiddenMenuButton

variable {Store Frame : Type}

/-- The button after `initState`. -/
def create : HiddenMenuButton where
  turnsSubject := BehaviorSubject.unseeded.emit 0

def turnsCell : Cell HiddenMenuButton (BehaviorSubject ℚ) where
  read := turnsSubject
  write := fun subject button => { button with turnsSubject := subject }

def turn (turns : ℚ) : Program Empty HiddenMenuButton Unit := turnsCell.add turns

def toggle : Program Empty HiddenMenuButton Unit :=
  modify fun button => { button with isShowing := !button.isShowing }

/-- `onPressed` when the menu is shown. -/
def hide (button : Cell Store HiddenMenuButton)
    (onNShowingEnd : Option (Program Empty Store Unit)) : Program Empty Store Unit := do
  onNShowingEnd.getD (return ())
  (turn 0).within button
  toggle.within button

/-- `onPressed` when the menu is hidden. `onShowingEnd` is an async function: what
it throws ends its own call and not the handler. -/
def expand (button : Cell Store HiddenMenuButton)
    (onShowingEnd : Option (Program Empty Store (Suspension Frame)))
    (isolate : Isolate Empty Store Frame) : Isolate Empty Store Frame :=
  match ((turn (1 / 2)).within button).run isolate.store with
  | .ok _ store =>
      let turned := { isolate with store := store }
      let called := match onShowingEnd with
        | some onShowingEnd => turned.call onShowingEnd
        | none => turned
      called.perform (toggle.within button)
  | .error _ store => { isolate with store := store }

def onPressed (button : Cell Store HiddenMenuButton)
    (onShowingEnd : Option (Program Empty Store (Suspension Frame)))
    (onNShowingEnd : Option (Program Empty Store Unit))
    (isolate : Isolate Empty Store Frame) : Isolate Empty Store Frame :=
  if (button.read isolate.store).isShowing then
    isolate.perform (hide button onNShowingEnd)
  else
    expand button onShowingEnd isolate

def dispose (button : HiddenMenuButton) : HiddenMenuButton :=
  { button with turnsSubject := button.turnsSubject.close }

end HiddenMenuButton

end FacebookApp

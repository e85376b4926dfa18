import FacebookApp.Library.Program
import Mathlib.Algebra.Order.Field.Rat

/-!
# Menu bloc

The subjects behind the menu page and the offsets that its two hidden menus are
scrolled to, which depend on what else is open.
-/

set_option autoImplicit false

namespace FacebookApp

open Dart

structure MenuBloc where
  scrollOffset : BehaviorSubject ℚ := .unseeded
  isShowingShortCut : BehaviorSubject Bool := .seeded false
  isShowingCommunityResource : BehaviorSubject Bool := .seeded false
  isShowingHelp : BehaviorSubject Bool := .seeded false
  deriving DecidableEq

namespace MenuBloc

def scrollOffsetCell : Cell MenuBloc (BehaviorSubject ℚ) where
  read := scrollOffset
  write := fun subject bloc => { bloc with scrollOffset := subject }

def isShowingShortCutCell : Cell MenuBloc (BehaviorSubject Bool) where
  read := isShowingShortCut
  write := fun subject bloc => { bloc with isShowingShortCut := subject }

def isShowingCommunityResourceCell : Cell MenuBloc (BehaviorSubject Bool) where
  read := isShowingCommunityResource
  write := fun subject bloc => { bloc with isShowingCommunityResource := subject }

def isShowingHelpCell : Cell MenuBloc (BehaviorSubject Bool) where
  read := isShowingHelp
  write := fun subject bloc => { bloc with isShowingHelp := subject }

def updateScrollOffset (offset : ℚ) : Program Empty MenuBloc Unit :=
  scrollOffsetCell.add offset

def updateIsShowingShortCut (isShowing : Bool) : Program Empty MenuBloc Unit :=
  isShowingShortCutCell.add isShowing

def updateIsShowingCommunityResource (isShowing : Bool) : Program Empty MenuBloc Unit :=
  isShowingCommunityResourceCell.add isShowing

def updateIsShowingHelp (isShowing : Bool) : Program Empty MenuBloc Unit :=
  isShowingHelpCell.add isShowing

/-- The offset of a hidden menu: for the short cuts and the other hidden menu both
open, for one of them open, and for none. -/
def calScrollOffset (other : Cell MenuBloc (BehaviorSubject Bool))
    (both shortCut otherOnly neither : ℚ) : Program Empty MenuBloc ℚ := do
  if ← isShowingShortCutCell.value <&&> other.value then
    return both
  if ← isShowingShortCutCell.value then
    return shortCut
  if ← other.value then
    return otherOnly
  return neither

def calCRScrollOffset : Program Empty MenuBloc ℚ :=
  calScrollOffset isShowingHelpCell 667 562 500 397

def calHelpScrollOffset : Program Empty MenuBloc ℚ :=
  calScrollOffset isShowingCommunityResourceCell 915 677 750 512

def dispose (bloc : MenuBloc) : MenuBloc where
  scrollOffset := bloc.scrollOffset.close
  isShowingShortCut := bloc.isShowingShortCut.close
  isShowingCommunityResource := bloc.isShowingCommunityResource.close
  isShowingHelp := bloc.isShowingHelp.close

end MenuBloc

end FacebookApp

import FacebookApp.Bloc.MenuBloc
import FacebookApp.Components.HiddenMenuButton
import FacebookApp.Library.EventSystem
import Mathlib.Logic.Function.Basic

/-!
# Menu page

The handlers of the menu page and the machine of one page. Opening a hidden menu
leaves a callback behind that scrolls to it after 300 milliseconds and that
nothing cancels. The other two buttons of the page have no callbacks and show
nothing.
-/

set_option autoImplicit false

namespace FacebookApp

open Dart

inductive HiddenMenu where
  | communityResource
  | help
  deriving DecidableEq, Repr

structure MenuStore where
  bloc : MenuBloc := {}
  buttons : HiddenMenu → HiddenMenuButton := fun _ => .create
  /-- What the show-more button was last built with. -/
  shortCutSnapshot : Option Bool := none
  /-- The calls of `animateTo` by delayed callbacks, with the menu each is for. -/
  scrolls : List (HiddenMenu × ℚ) := []

structure MenuPage where
  isolate : Isolate Empty MenuStore HiddenMenu
  mounted : Bool := true

namespace MenuPage

def blocCell : Cell MenuStore MenuBloc where
  read := MenuStore.bloc
  write := fun bloc store => { store with bloc := bloc }

def buttonCell (menu : HiddenMenu) : Cell MenuStore HiddenMenuButton where
  read := fun store => store.buttons menu
  write := fun button store =>
    { store with buttons := Function.update store.buttons menu button }

def showingCell : HiddenMenu → Cell MenuBloc (BehaviorSubject Bool)
  | .communityResource => MenuBloc.isShowingCommunityResourceCell
  | .help => MenuBloc.isShowingHelpCell

def updateIsShowing : HiddenMenu → Bool → Program Empty MenuBloc Unit
  | .communityResource => MenuBloc.updateIsShowingCommunityResource
  | .help => MenuBloc.updateIsShowingHelp

def calScrollOffset : HiddenMenu → Program Empty MenuBloc ℚ
  | .communityResource => MenuBloc.calCRScrollOffset
  | .help => MenuBloc.calHelpScrollOffset

def listener (offset : ℚ) : Program Empty MenuStore Unit :=
  (MenuBloc.updateScrollOffset offset).within blocCell

/-- `onPress` of the show-more button, an async function without an `await`. -/
def onPressShortCut : Program Empty MenuStore (Suspension HiddenMenu) := do
  if ← Program.nonNull (← get).shortCutSnapshot then
    (MenuBloc.updateIsShowingShortCut false).within blocCell
  else
    (MenuBloc.updateIsShowingShortCut true).within blocCell
  return none

def onShowingEnd (menu : HiddenMenu) : Program Empty MenuStore (Suspension HiddenMenu) := do
  (updateIsShowing menu true).within blocCell
  return some (menu, 300)

/-- `onShowingEnd` after its delay. -/
def scrollTo (menu : HiddenMenu) : Program Empty MenuStore (Suspension HiddenMenu) := do
  let offset ← (calScrollOffset menu).within blocCell
  modify fun store => { store with scrolls := store.scrolls ++ [(menu, offset)] }
  return none

def onNShowingEnd (menu : HiddenMenu) : Program Empty MenuStore Unit :=
  (updateIsShowing menu false).within blocCell

inductive Event where
  | build
  | pressShortCut
  | press (menu : HiddenMenu)
  | scroll (offset : ℚ)
  | resume (call : Nat)
  | elapse (milliseconds : Nat)
  | dispose
  deriving DecidableEq

/-- The scroll listener stays registered: `removeListener` is given a closure of its
own. -/
def step (page : MenuPage) : Event → Option MenuPage
  | .build =>
      if page.mounted then
        let store := page.isolate.store
        some { page with
          isolate := { page.isolate with
            store := { store with shortCutSnapshot := store.bloc.isShowingShortCut.value? } } }
      else none
  | .pressShortCut =>
      if page.mounted then some { page with isolate := page.isolate.call onPressShortCut }
      else none
  | .press menu =>
      if page.mounted then
        some { page with
          isolate := HiddenMenuButton.onPressed (buttonCell menu) (some (onShowingEnd menu))
            (some (onNShowingEnd menu)) page.isolate }
      else none
  | .scroll offset => some { page with isolate := page.isolate.perform (listener offset) }
  | .resume call =>
      (page.isolate.resume scrollTo call).map fun isolate => { page with isolate := isolate }
  | .elapse milliseconds => some { page with isolate := page.isolate.elapse milliseconds }
  | .dispose =>
      if page.mounted then
        let store := page.isolate.store
        some {
          isolate := { page.isolate with
            store := { store with
              bloc := store.bloc.dispose
              buttons := fun menu => (store.buttons menu).dispose } }
          mounted := false }
      else none

def system : EventSystem MenuPage Event where
  step := step

def initial : MenuPage where
  isolate := { store := {}, activations := [], now := 0 }

def isShowing? (page : MenuPage) (menu : HiddenMenu) : Option Bool :=
  ((showingCell menu).read page.isolate.store.bloc).value?

def turns? (page : MenuPage) (menu : HiddenMenu) : Option ℚ :=
  (page.isolate.store.buttons menu).turnsSubject.value?

def shortCut? (page : MenuPage) : Option Bool :=
  page.isolate.store.bloc.isShowingShortCut.value?

def Event.elapsed : Event → Nat
  | .elapse milliseconds => milliseconds
  | .build | .pressShortCut | .press _ | .scroll _ | .resume _ | .dispose => 0

/-- Whatever a delayed callback scrolls to is open at that moment. -/
def ScrollsToShown (page : MenuPage) : Event → Prop
  | .resume call =>
      ∀ next, system.step page (.resume call) = some next →
        ∀ scroll ∈ next.isolate.store.scrolls.drop page.isolate.store.scrolls.length,
          page.isShowing? scroll.1 = some true
  | _ => True

/-- The press of the button in this state opens the menu and makes the given call
of `onShowingEnd`. -/
def Schedules (page : MenuPage) (menu : HiddenMenu) (call : Nat) : Prop :=
  (page.isolate.store.buttons menu).isShowing = false ∧
    page.isolate.activations.length = call

end MenuPage

end FacebookApp

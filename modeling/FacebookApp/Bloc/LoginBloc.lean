import FacebookApp.Library.Program
import Mathlib.Algebra.Order.Field.Rat

/-!
# Login bloc

The subjects behind the login form. The login button is a flag of its own that
handlers recompute from the two texts.
-/

set_option autoImplicit false

namespace FacebookApp

open Dart

structure LoginBloc where
  id : BehaviorSubject String := .unseeded
  pw : BehaviorSubject String := .unseeded
  appBarHeight : BehaviorSubject ℚ
  minAppBarHeight : ℚ
  maxAppBarHeight : ℚ
  idButton : BehaviorSubject Bool := .unseeded
  pwButton : BehaviorSubject Bool := .unseeded
  loginButton : BehaviorSubject Bool := .seeded false
  indicator : BehaviorSubject Bool := .unseeded
  deriving DecidableEq

namespace LoginBloc

variable {External : Type}

def create (appHeight : ℚ) : LoginBloc where
  appBarHeight := .seeded (appHeight * (24 / 100))
  minAppBarHeight := appHeight * (12 / 100)
  maxAppBarHeight := appHeight * (24 / 100)

def idCell : Cell LoginBloc (BehaviorSubject String) where
  read := id
  write := fun subject bloc => { bloc with id := subject }

def pwCell : Cell LoginBloc (BehaviorSubject String) where
  read := pw
  write := fun subject bloc => { bloc with pw := subject }

def appBarHeightCell : Cell LoginBloc (BehaviorSubject ℚ) where
  read := appBarHeight
  write := fun subject bloc => { bloc with appBarHeight := subject }

def idButtonCell : Cell LoginBloc (BehaviorSubject Bool) where
  read := idButton
  write := fun subject bloc => { bloc with idButton := subject }

def pwButtonCell : Cell LoginBloc (BehaviorSubject Bool) where
  read := pwButton
  write := fun subject bloc => { bloc with pwButton := subject }

def loginButtonCell : Cell LoginBloc (BehaviorSubject Bool) where
  read := loginButton
  write := fun subject bloc => { bloc with loginButton := subject }

def indicatorCell : Cell LoginBloc (BehaviorSubject Bool) where
  read := indicator
  write := fun subject bloc => { bloc with indicator := subject }

def updateId (id : String) : Program External LoginBloc Unit := idCell.add id

def updatePw (pw : String) : Program External LoginBloc Unit := pwCell.add pw

def updateIdButton (visible : Bool) : Program External LoginBloc Unit :=
  idButtonCell.add visible

def updatePwButton (visible : Bool) : Program External LoginBloc Unit :=
  pwButtonCell.add visible

def updateLoginButton (enabled : Bool) : Program External LoginBloc Unit :=
  loginButtonCell.add enabled

def updateIndicator (visible : Bool) : Program External LoginBloc Unit :=
  indicatorCell.add visible

def setAppBarHeightMax : Program External LoginBloc Unit := do
  appBarHeightCell.add (← get).maxAppBarHeight

def setAppBarHeightMin : Program External LoginBloc Unit := do
  appBarHeightCell.add (← get).minAppBarHeight

def toggleLoginButton : Program External LoginBloc Unit := do
  let bloc ← get
  if bloc.id.hasValue && bloc.pw.hasValue then
    let id ← idCell.value
    let pw ← pwCell.value
    if !id.isEmpty && !pw.isEmpty then
      updateLoginButton true
    else
      updateLoginButton false

/-- Show the clear icon of a field when its text is not empty. -/
def toggleButton (text : Cell LoginBloc (BehaviorSubject String))
    (button : Cell LoginBloc (BehaviorSubject Bool)) : Program External LoginBloc Unit := do
  if (← text.value).isEmpty then
    button.add false
  else
    button.add true

def toggleIdButton : Program External LoginBloc Unit := toggleButton idCell idButtonCell

def togglePwButton : Program External LoginBloc Unit := toggleButton pwCell pwButtonCell

def onUnfocus : Program External LoginBloc Unit := do
  setAppBarHeightMax
  updateIdButton false
  updatePwButton false
  toggleLoginButton

def dispose (bloc : LoginBloc) : LoginBloc :=
  { bloc with
    id := bloc.id.close
    pw := bloc.pw.close
    appBarHeight := bloc.appBarHeight.close
    idButton := bloc.idButton.close
    pwButton := bloc.pwButton.close
    loginButton := bloc.loginButton.close
    indicator := bloc.indicator.close }

end LoginBloc

end FacebookApp

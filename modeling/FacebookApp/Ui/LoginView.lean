import FacebookApp.Ui.LoginPage

/-!
# What the login form shows

The form as its user knows it: two texts, a clear icon for each, a tall or a short app
bar, and a login button that can be pressed or not.
-/

set_option autoImplicit false

namespace FacebookApp

structure LoginView where
  text : LoginField → String := fun _ => ""
  showsClear : LoginField → Bool := fun _ => false
  isTall : Bool := true
  isEnabled : Bool := false

namespace LoginView

def isFilled (view : LoginView) : Bool := view.text .id ≠ "" && view.text .pw ≠ ""

def type (field : LoginField) (text : String) (view : LoginView) : LoginView :=
  { view with text := Function.update view.text field text }

def icon (field : LoginField) (visible : Bool) (view : LoginView) : LoginView :=
  { view with showsClear := Function.update view.showsClear field visible }

/-- The clear icon of the field follows its text. -/
def toggleIcon (field : LoginField) (view : LoginView) : LoginView :=
  view.icon field (view.text field ≠ "")

def toggleEnabled (view : LoginView) : LoginView := { view with isEnabled := view.isFilled }

def raise (view : LoginView) : LoginView := { view with isTall := true }

def lower (view : LoginView) : LoginView := { view with isTall := false }

/-- A clear icon alone tells neither the icon nor the button about the empty text. -/
def next (view : LoginView) : LoginPage.Event → LoginView
  | .edit field text => ((view.type field text).toggleIcon field).toggleEnabled
  | .select _ => view
  | .tap field => (view.toggleIcon field).lower
  | .submit .id => view.icon .id false
  | .submit .pw => (view.icon .pw false).raise
  | .clear field false => view.type field ""
  | .clear field true => ((view.type field "").toggleIcon field).lower
  | .tapOutside => (((view.icon .id false).icon .pw false).raise).toggleEnabled
  | .login => view.raise
  | .complete _ _ | .unmount => view

end LoginView

namespace LoginPage

/-- What the page shows is the view, on a screen of the given height. -/
structure Displays (appHeight : ℚ) (store : LoginStore) (view : LoginView) : Prop where
  text : ∀ field, store.text field = view.text field
  showsClear : ∀ field, store.showsClear field = view.showsClear field
  appBarHeight : store.bloc.appBarHeight.value? =
    some (appHeight * if view.isTall then 24 / 100 else 12 / 100)
  isEnabled : store.bloc.loginButton.value? = some view.isEnabled

end LoginPage

end FacebookApp

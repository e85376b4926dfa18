import FacebookApp.Bloc.LoginBloc
import FacebookApp.Library.EventSystem
import FacebookApp.Library.Isolate
import FacebookApp.Models.Firebase

/-!
# Login page

The handlers of the login form and the machine of one mounted page, with any
number of sign-in requests in flight.
-/

set_option autoImplicit false

namespace FacebookApp

open Dart

inductive LoginField where
  | id
  | pw
  deriving DecidableEq, Repr

structure LoginStore where
  idController : String := ""
  pwController : String := ""
  bloc : LoginBloc
  dialogs : List String := []
  deriving DecidableEq

namespace LoginStore

def text (store : LoginStore) : LoginField → String
  | .id => store.idController
  | .pw => store.pwController

def setText (store : LoginStore) (text : String) : LoginField → LoginStore
  | .id => { store with idController := text }
  | .pw => { store with pwController := text }

def showsClear (store : LoginStore) : LoginField → Bool
  | .id => store.bloc.idButton.value? == some true
  | .pw => store.bloc.pwButton.value? == some true

def blocCell : Cell LoginStore LoginBloc where
  read := bloc
  write := fun bloc store => { store with bloc := bloc }

end LoginStore

structure LoginPage where
  isolate : Isolate FirebaseError LoginStore Credentials
  mounted : Bool := true
  signedIn : Bool := false

namespace LoginPage

def onBloc (program : Program FirebaseError LoginBloc Unit) :
    Program FirebaseError LoginStore Unit :=
  program.within LoginStore.blocCell

def listener (field : LoginField) : Program FirebaseError LoginStore Unit := do
  let text := (← get).text field
  match field with
  | .id => onBloc (LoginBloc.updateId text)
  | .pw => onBloc (LoginBloc.updatePw text)

def onTap : LoginField → Program FirebaseError LoginStore Unit
  | .id => onBloc do
      LoginBloc.setAppBarHeightMin
      LoginBloc.toggleIdButton
  | .pw => onBloc do
      LoginBloc.setAppBarHeightMin
      LoginBloc.togglePwButton

def onSubmitted : LoginField → Program FirebaseError LoginStore Unit
  | .id => onBloc (LoginBloc.updateIdButton false)
  | .pw => onBloc do
      LoginBloc.setAppBarHeightMax
      LoginBloc.updatePwButton false

def onChanged : LoginField → Program FirebaseError LoginStore Unit
  | .id => onBloc do
      LoginBloc.toggleIdButton
      LoginBloc.toggleLoginButton
  | .pw => onBloc do
      LoginBloc.toggleLoginButton
      LoginBloc.togglePwButton

def edit (field : LoginField) (text : String) : Program FirebaseError LoginStore Unit := do
  modify fun store => store.setText text field
  listener field
  onChanged field

def tap (field : LoginField) : Program FirebaseError LoginStore Unit := do
  listener field
  onTap field

/-- The clear icon of a field. It changes the text from code, which does not call
`onChanged`; the tap may reach the field as well. -/
def clear (field : LoginField) (withTap : Bool) : Program FirebaseError LoginStore Unit := do
  modify fun store => store.setText "" field
  listener field
  if withTap then
    onTap field

def login : Program FirebaseError LoginStore (Suspension Credentials) := do
  onBloc do
    LoginBloc.setAppBarHeightMax
    LoginBloc.updateIndicator true
  let store ← get
  return some ({ email := store.idController, password := store.pwController }, 0)

def wrongPasswordText : String := "이메일 혹은 비밀번호가 잘못입력되었습니다."

/-- The login button after its `await`: only a `FirebaseAuthException` is caught. -/
def loginEnded (failure : Option FirebaseError) :
    Program FirebaseError LoginStore (Suspension Credentials) := do
  match failure with
  | none => return none
  | some (.firebaseAuthException code) =>
      onBloc (LoginBloc.updateIndicator false)
      if code = "wrong-password" then
        modify fun store => { store with dialogs := store.dialogs ++ [wrongPasswordText] }
      return none
  | some .other => throw (.thrown .other)

inductive Event where
  | edit (field : LoginField) (text : String)
  | select (field : LoginField)
  | tap (field : LoginField)
  | submit (field : LoginField)
  | clear (field : LoginField) (withTap : Bool)
  | tapOutside
  | login
  | complete (call : Nat) (failure : Option FirebaseError)
  | unmount
  deriving DecidableEq

def perform (page : LoginPage) (handler : Program FirebaseError LoginStore Unit) : LoginPage :=
  { page with isolate := page.isolate.perform handler }

/-- The user can do something while the page is mounted; requests end at any
time. -/
def step (page : LoginPage) : Event → Option LoginPage
  | .edit field text => if page.mounted then some (page.perform (edit field text)) else none
  | .select field => if page.mounted then some (page.perform (listener field)) else none
  | .tap field => if page.mounted then some (page.perform (tap field)) else none
  | .submit field => if page.mounted then some (page.perform (onSubmitted field)) else none
  | .clear field withTap =>
      if page.mounted && page.isolate.store.showsClear field then
        some (page.perform (clear field withTap))
      else none
  | .tapOutside =>
      if page.mounted then some (page.perform (onBloc LoginBloc.onUnfocus)) else none
  | .login =>
      if page.mounted && page.isolate.store.bloc.loginButton.value? == some true then
        some { page with isolate := page.isolate.call login }
      else none
  | .complete call failure =>
      (page.isolate.resume (fun _ => loginEnded failure) call).map fun isolate =>
        { page with
          isolate := isolate
          signedIn := page.signedIn || failure.isNone }
  | .unmount =>
      if page.mounted then
        some { page with
          isolate := { page.isolate with
            store := { page.isolate.store with bloc := page.isolate.store.bloc.dispose } }
          mounted := false }
      else none

def system : EventSystem LoginPage Event where
  step := step

def initial (appHeight : ℚ) : LoginPage where
  isolate := { store := { bloc := LoginBloc.create appHeight }, activations := [], now := 0 }

def Filled (page : LoginPage) : Prop :=
  page.isolate.store.idController ≠ "" ∧ page.isolate.store.pwController ≠ ""

instance (page : LoginPage) : Decidable (Filled page) := instDecidableAnd

def ButtonIsRight (page : LoginPage) : Prop :=
  page.isolate.store.bloc.loginButton.value? = some true ↔ Filled page

def clearsNoFilledForm (page : LoginPage) : Event → Bool
  | .clear _ _ => !decide (Filled page)
  | _ => true

/-- Before the first success the indicator of a mounted page is shown exactly when
a request is in flight. -/
def IndicatorIsRight (page : LoginPage) : Prop :=
  page.mounted = true → page.signedIn = false →
    (page.isolate.store.bloc.indicator.value? = some true ↔ page.isolate.pending ≠ [])

/-- A request that fails before any succeeded does so with the error that is caught
exactly when no other request is in flight. -/
def onlyLastFailureIsCaught (page : LoginPage) : Event → Bool
  | .complete _ (some error) =>
      !page.mounted || page.signedIn ||
        error.isFirebaseAuthException == (page.isolate.pending.length == 1)
  | _ => true

end LoginPage

end FacebookApp

import FacebookApp.Library.EventSystem
import FacebookApp.Library.Navigator
import FacebookApp.Models.Firebase

/-!
# New account page

The handler of the create button, for given answers of the two services it
awaits, and the machine of one page whose button is pressed again and again, every
press being over before the next one.
-/

set_option autoImplicit false

namespace FacebookApp

open Dart Flutter

inductive AppRoute where
  | loadingPage
  | newAccountPage
  | progress
  | alert (content : String)
  | logoutSheet
  | alarmTileBottomSheet
  deriving DecidableEq, Repr

structure NewAccountForm where
  id : String := ""
  pw : String := ""
  name : String := ""
  deriving DecidableEq, Repr

namespace NewAccountForm

def Filled (form : NewAccountForm) : Prop := form.id ≠ "" ∧ form.pw ≠ "" ∧ form.name ≠ ""

instance (form : NewAccountForm) : Decidable form.Filled := instDecidableAnd

def credentials (form : NewAccountForm) : Credentials where
  email := form.id
  password := form.pw

end NewAccountForm

structure NewAccountStore where
  /-- The text fields of every new account page, by the number of its route. -/
  forms : Nat → NewAccountForm := fun _ => {}
  navigator : Navigator AppRoute
  firebase : Firebase

namespace NewAccountStore

def withForm (page : Nat) (form : NewAccountForm) (store : NewAccountStore) : NewAccountStore :=
  { store with forms := Function.update store.forms page form }

def navigatorCell : Cell NewAccountStore (Navigator AppRoute) where
  read := navigator
  write := fun navigator store => { store with navigator := navigator }

def firebaseCell : Cell NewAccountStore Firebase where
  read := firebase
  write := fun firebase store => { store with firebase := firebase }

end NewAccountStore

namespace NewAccountPage

open NewAccountStore (navigatorCell firebaseCell)

/-- `showCupertinoDialog`, with the number of the new route as its context. -/
def showDialog (route : AppRoute) : Program FirebaseError NewAccountStore Nat :=
  (Navigator.pushRoute route).within navigatorCell

def emptyFieldText : String := "비어있는 항목이 없도록 모두 작성해주세요."

/-- The `try` block: whatever it throws is logged and forgotten. -/
def createAccount (service : FirebaseService) (credentials : Credentials)
    (creation : Except FirebaseError Uid) : Program FirebaseError NewAccountStore Unit := do
  try
    let authCredential ←
      (service.createUserWithEmailAndPassword credentials creation).within firebaseCell
    let uid ← Program.nonNull authCredential.user
    (service.sendEmailVerification uid).within firebaseCell
  catch _ =>
    return ()

/-- `onPressed` of the create button of the page with the given number. `creation` and
`storing` are the answers of the services, `now` is the time when the document is made. -/
def onPressed (service : FirebaseService) (page : Nat) (creation : Except FirebaseError Uid)
    (storing : Except FirebaseError Unit) (now : Int) :
    Program FirebaseError NewAccountStore Unit := do
  let form := (← get).forms page
  if form.Filled then
    let alertContext ← showDialog .progress
    createAccount service form.credentials creation
    let uid ← Program.nonNull (← get).firebase.currentUser
    let document := { name := ((← get).forms page).name, date := now }
    (service.set uid document storing).within firebaseCell
    (Navigator.popFrom alertContext).within navigatorCell
  else
    let _ ← showDialog (.alert emptyFieldText)

end NewAccountPage

/-- The page is the first route, which has the number 0. -/
structure NewAccountPage where
  store : NewAccountStore
  /-- The accounts that presses of the button created, with the name typed. -/
  created : List (Uid × String) := []

namespace NewAccountPage

def form (page : NewAccountPage) : NewAccountForm := page.store.forms 0

inductive Event where
  | type (form : NewAccountForm)
  | press (creation : Except FirebaseError Uid) (now : Int)

/-- A creation that succeeds gives a uid that no account had before. -/
def IsFresh (firebase : Firebase) : Except FirebaseError Uid → Prop
  | .ok uid => uid ∉ firebase.accounts.map (·.1)
  | .error _ => True

instance (firebase : Firebase) : ∀ creation, Decidable (IsFresh firebase creation)
  | .ok uid => inferInstanceAs (Decidable (uid ∉ firebase.accounts.map (·.1)))
  | .error _ => .isTrue trivial

def newAccount (form : NewAccountForm) : Except FirebaseError Uid → List (Uid × String)
  | .ok uid => if form.Filled then [(uid, form.name)] else []
  | .error _ => []

/-- The user fills in the form and presses the button. A document that is set is
stored. -/
def step (service : FirebaseService) (page : NewAccountPage) : Event → Option NewAccountPage
  | .type form => some { page with store := page.store.withForm 0 form }
  | .press creation now =>
      if IsFresh page.store.firebase creation then
        some {
          store := finalStore ((onPressed service 0 creation (.ok ()) now).run page.store)
          created := page.created ++ newAccount page.form creation }
      else none

def system (service : FirebaseService) : EventSystem NewAccountPage Event where
  step := step service

def initial (firebase : Firebase) : NewAccountPage where
  store := { navigator := .start .newAccountPage, firebase := firebase }

def DocumentsAgree (page : NewAccountPage) : Prop :=
  ∀ uid name, (uid, name) ∈ page.created →
    (page.store.firebase.user uid).map (·.name) = some name

def FailureChangesNothing (service : FirebaseService) (page : NewAccountPage) : Event → Prop
  | .press (.error error) now =>
      ∀ next, (system service).step page (.press (.error error) now) = some next →
        next.store.firebase.user = page.store.firebase.user
  | _ => True

/-- A press whose creation fails finds nobody signed in, or the document of the
signed-in user is already the one it is going to write. -/
def failsHarmlessly (page : NewAccountPage) : Event → Bool
  | .press (.error _) now =>
      !decide page.form.Filled ||
        match page.store.firebase.currentUser with
        | none => true
        | some uid => page.store.firebase.user uid ==
            some { name := page.form.name, date := now }
  | _ => true

end NewAccountPage

end FacebookApp

import FacebookApp.Library.Instances
import FacebookApp.Ui.LoginPage
import FacebookApp.Ui.MainPage
import FacebookApp.Ui.SignUpRequests

/-!
# Loading page

The page that the app starts with. It shows the login page or the main page, whichever
fits the user that the authentication service announced last, and the routes that these
two open lie above it. The services announce and answer at any time, whatever is on
screen by then, and the back button of the platform closes whatever is on top.
-/

set_option autoImplicit false

namespace FacebookApp

open Dart Flutter

structure LoadingPage where
  /-- The forms of the new account pages, the navigator, the services, and the sign-ups in
  flight. -/
  signUps : SignUpRequests
  showsMain : Bool := false
  /-- Every login page shown so far, the last one being the latest. -/
  loginPages : List LoginPage
  mainPages : List MainPage := []
  signOuts : Nat := 0

/-- What the user does on a login page, as opposed to what happens to it. -/
def LoginPage.Event.isUsers : LoginPage.Event → Bool
  | .edit _ _ | .select _ | .tap _ | .submit _ | .clear _ _ | .tapOutside | .login => true
  | .complete _ _ | .unmount => false

/-- The dialogs that a page has shown since it was `before`. -/
def LoginPage.newDialogs (before after : LoginPage) : List String :=
  after.isolate.store.dialogs.drop before.isolate.store.dialogs.length

namespace AppRoute

/-- A button of the route or its barrier closes it. The progress dialog has neither. -/
def closesItself : AppRoute → Bool
  | .newAccountPage | .alert _ | .logoutSheet | .alarmTileBottomSheet => true
  | .loadingPage | .progress => false

end AppRoute

namespace LoadingPage

def navigator (app : LoadingPage) : Navigator AppRoute := app.signUps.store.navigator

def currentUser (app : LoadingPage) : Option Uid := app.signUps.store.firebase.currentUser

def withNavigator (navigator : Navigator AppRoute) (app : LoadingPage) : LoadingPage :=
  { app with
    signUps := { app.signUps with store := { app.signUps.store with navigator := navigator } } }

def withFirebase (firebase : Firebase) (app : LoadingPage) : LoadingPage :=
  { app with
    signUps := { app.signUps with store := { app.signUps.store with firebase := firebase } } }

/-- The loading page is the first route. -/
def isMounted (app : LoadingPage) : Bool := app.navigator.isMounted 0

def showAlerts (contents : List String) (app : LoadingPage) : LoadingPage :=
  app.withNavigator (contents.foldl (fun navigator content => navigator.push (.alert content))
    app.navigator)

def unmountShown (app : LoadingPage) : Option LoadingPage :=
  if app.showsMain then
    (MainPage.system.stepAt app.mainPages (app.mainPages.length - 1) .dispose).map
      fun mainPages => { app with mainPages := mainPages }
  else
    (LoginPage.system.stepAt app.loginPages (app.loginPages.length - 1) .unmount).map
      fun loginPages => { app with loginPages := loginPages }

/-- The builder of the stream. A page of the kind that is shown already stays as it
is; otherwise it is unmounted and one of the other kind is mounted. -/
def showPageFor (appHeight : ℚ) (user : Option Uid) (app : LoadingPage) :
    Option LoadingPage :=
  if user.isSome = app.showsMain then some app
  else app.unmountShown.map fun unmounted =>
    if user.isSome then
      { unmounted with showsMain := true, mainPages := unmounted.mainPages ++ [.initial] }
    else
      { unmounted with
        showsMain := false
        loginPages := unmounted.loginPages ++ [.initial appHeight] }

def failure? : Except FirebaseError Uid → Option FirebaseError
  | .ok _ => none
  | .error error => some error

/-- The service answers a sign-in. A page that is not mounted any more shows no
dialog, because its bloc is closed. -/
def signInAnswered (service : FirebaseService) (page call : Nat)
    (outcome : Except FirebaseError Uid) (app : LoadingPage) : Option LoadingPage := do
  let before ← app.loginPages[page]?
  let after ← LoginPage.system.step before (.complete call (failure? outcome))
  let answered :=
    { app with loginPages := app.loginPages.set page after }.showAlerts (before.newDialogs after)
  return match outcome with
    | .ok uid => answered.withFirebase (service.signIn uid app.signUps.store.firebase)
    | .error _ => answered

def signOutAnswered (service : FirebaseService) (outcome : Except FirebaseError Unit)
    (app : LoadingPage) : Option LoadingPage :=
  if 0 < app.signOuts then
    let answered := { app with signOuts := app.signOuts - 1 }
    match outcome with
    | .ok _ => some (answered.withFirebase (service.signOut app.signUps.store.firebase))
    | .error _ => some answered
  else none

/-- The exit transition of a popped route is over. With the loading page goes the page
that it shows. -/
def settle (number : Nat) (app : LoadingPage) : Option LoadingPage :=
  if app.navigator.leaving.contains number then
    let settled := app.withNavigator (app.navigator.settle number)
    if number = 0 then settled.unmountShown else some settled
  else none

inductive Event where
  /-- The builder of the stream gets the user that `authStateChanges()` announced last. -/
  | authStateChanged (user : Option Uid)
  | login (event : LoginPage.Event)
  | signInAnswered (page call : Nat) (outcome : Except FirebaseError Uid)
  | pageTransition (index : Int) (alarmToWatch : Bool) (data : Option AlarmData)
  | resume (page call : Nat)
  | elapse (milliseconds : Nat)
  | openNewAccount
  | type (form : NewAccountForm)
  | create
  | answer (call : Nat) (answer : SignUpAnswer)
  | openAlarmTileBottomSheet
  | openLogout
  | logout
  | signOutAnswered (outcome : Except FirebaseError Unit)
  /-- The button or the barrier of the top route. -/
  | close
  /-- The back button of the platform. -/
  | back
  | settle (number : Nat)

/-- The user reaches the top route only. -/
def onTop (route : AppRoute) (next : Nat → Option LoadingPage) (app : LoadingPage) :
    Option LoadingPage :=
  match app.navigator.routes.head? with
  | some (number, top) => if top = route then next number else none
  | none => none

/-- Back on the last route leaves the app. -/
def step (service : FirebaseService) (appHeight : ℚ) (app : LoadingPage) :
    Event → Option LoadingPage
  | .authStateChanged user => if app.isMounted then app.showPageFor appHeight user else none
  | .login event => app.onTop .loadingPage fun _ =>
      if !app.showsMain && event.isUsers then
        (LoginPage.system.stepAt app.loginPages (app.loginPages.length - 1) event).map
          fun loginPages => { app with loginPages := loginPages }
      else none
  | .signInAnswered page call outcome => app.signInAnswered service page call outcome
  | .pageTransition index alarmToWatch data => app.onTop .loadingPage fun _ =>
      if app.showsMain then
        (MainPage.system.stepAt app.mainPages (app.mainPages.length - 1)
          (.pageTransition index alarmToWatch data)).map
            fun mainPages => { app with mainPages := mainPages }
      else none
  | .resume page call =>
      (MainPage.system.stepAt app.mainPages page (.resume call)).map
        fun mainPages => { app with mainPages := mainPages }
  | .elapse milliseconds =>
      some { app with mainPages := app.mainPages.map fun page =>
        { page with bloc := page.bloc.elapse milliseconds } }
  | .openNewAccount => app.onTop .loadingPage fun _ =>
      if app.showsMain then none
      else some (app.withNavigator (app.navigator.push .newAccountPage))
  | .type form => app.onTop .newAccountPage fun page =>
      some { app with
        signUps := { app.signUps with store := app.signUps.store.withForm page form } }
  | .create => app.onTop .newAccountPage fun page =>
      some { app with signUps := app.signUps.call (CreateButton.create page) }
  | .answer call answer =>
      (app.signUps.answer service call answer).map fun signUps => { app with signUps := signUps }
  | .openAlarmTileBottomSheet => app.onTop .loadingPage fun _ =>
      if app.showsMain then
        some (app.withNavigator (app.navigator.push .alarmTileBottomSheet))
      else none
  | .openLogout => app.onTop .loadingPage fun _ =>
      if app.showsMain then some (app.withNavigator (app.navigator.push .logoutSheet))
      else none
  | .logout => app.onTop .logoutSheet fun _ =>
      some { app.withNavigator app.navigator.pop with signOuts := app.signOuts + 1 }
  | .signOutAnswered outcome => app.signOutAnswered service outcome
  | .close =>
      if app.navigator.top?.any AppRoute.closesItself then
        some (app.withNavigator app.navigator.pop)
      else none
  | .back =>
      if 1 < app.navigator.routes.length then some (app.withNavigator app.navigator.pop)
      else none
  | .settle number => app.settle number

def system (service : FirebaseService) (appHeight : ℚ) : EventSystem LoadingPage Event where
  step := step service appHeight

/-- The app once Firebase is initialized: the builder has no user before the first
announcement. -/
def initial (appHeight : ℚ) (firebase : Firebase) : LoadingPage where
  signUps :=
    { store := { navigator := .start .loadingPage, firebase := firebase }
      activations := []
      now := 0 }
  loginPages := [LoginPage.initial appHeight]

/-! ## Users -/

def userObserver (_ : LoadingPage) (event : Event) (_ : LoadingPage) : List (Option Uid) :=
  match event with
  | .authStateChanged user => [user]
  | _ => []

/-- How often the users in a row go from signed in or not to `signedIn`, when nobody is
signed in at first. -/
def changesTo (signedIn : Bool) (users : List (Option Uid)) : Nat :=
  ((false :: users.map Option.isSome).zip (users.map Option.isSome)).count (!signedIn, signedIn)

/-! ## Progress dialogs -/

/-- Every progress dialog belongs to a call that is still in flight. -/
def NoDialogIsLeft (app : LoadingPage) : Prop :=
  ∀ number, (number, .progress) ∈ app.navigator.routes →
    ∃ frame ∈ app.signUps.pending, frame.alertContext = number

def dialogOf? (call : Nat) (app : LoadingPage) : Option Nat :=
  app.signUps.activations[call]?.bind fun activation => activation.frame?.map (·.alertContext)

/-- A call that ends finds its dialog popped already, or stores its document with the
dialog on top. -/
def closesItsDialog (app : LoadingPage) : Event → Bool
  | .answer call answer =>
      let isPopped := !(app.dialogOf? call).any app.navigator.isShown
      match answer with
      | .creation outcome _ => outcome.isOk || app.currentUser.isSome || isPopped
      | .storing outcome =>
          outcome.isOk && app.navigator.routes.head?.map (·.1) == app.dialogOf? call || isPopped
  | _ => true

/-! ## Documents -/

/-- An account that a call of the create handler created, and the name typed for it. -/
structure SignUp where
  call : Nat
  uid : Uid
  name : String
  deriving DecidableEq

def signUpObserver (app : LoadingPage) (event : Event) (_ : LoadingPage) : List SignUp :=
  match event with
  | .answer call (.creation (.ok uid) _) =>
      match app.signUps.activations[call]? with
      | some (.suspended (.creating page _ _) _) =>
          [{ call := call, uid := uid, name := (app.signUps.store.forms page).name }]
      | _ => []
  | _ => []

/-- A press of the create button, with the number of its call and the name in the form. -/
def pressObserver (app : LoadingPage) (event : Event) (_ : LoadingPage) : List (Nat × String) :=
  match event, app.navigator.routes.head? with
  | .create, some (page, _) =>
      [(app.signUps.activations.length, (app.signUps.store.forms page).name)]
  | _, _ => []

def awaitsAccountOf (page : Nat) : SignUpFrame → Bool
  | .creating other _ _ => other == page
  | .storing _ _ _ => false

/-- The user does not change the name on a page whose account is being created. -/
def keepsNames (app : LoadingPage) (event : Event) : Bool :=
  match event, app.navigator.routes.head? with
  | .type form, some (page, _) =>
      form.name == (app.signUps.store.forms page).name ||
        !app.signUps.pending.any (awaitsAccountOf page)
  | _, _ => true

/-- Every document that a call wants to store is for the account that this call created,
and a document that is not as it was at first was stored by the call that created its
account, under the name typed for it. -/
structure DocumentsAreOwn (firebase : Firebase) (signUps : List SignUp) (app : LoadingPage) :
    Prop where
  underWay : ∀ (call alertContext : Nat) (uid : Uid) (document : UserDocument) (due : Nat),
    app.signUps.activations[call]? = some (.suspended (.storing alertContext uid document) due) →
      { call := call, uid := uid, name := document.name } ∈ signUps
  stored : ∀ uid, app.signUps.store.firebase.user uid = firebase.user uid ∨
    ∃ call document, app.signUps.store.firebase.user uid = some document ∧
      { call := call, uid := uid, name := document.name } ∈ signUps

/-- When an account cannot be created nobody is signed in, whose document the handler would
overwrite instead. -/
def failsForNobody (app : LoadingPage) : Event → Bool
  | .answer _ (.creation (.error _) _) => app.currentUser.isNone
  | _ => true

end LoadingPage

end FacebookApp

import FacebookApp.Library.Isolate
import FacebookApp.Ui.NewAccountPage

/-!
# Sign-up requests

The handler of the create button cut at its two awaits, and calls of it that are
answered at any later time, whatever has become of the page and its dialog. The answers
come over the network, by when the dialog has been built.
-/

set_option autoImplicit false

namespace FacebookApp

open Dart Flutter

/-- Where a call of the handler is suspended, with the variables it goes on with: at the
creation of the account, or at the storing of the document. -/
inductive SignUpFrame where
  | creating (page alertContext : Nat) (credentials : Credentials)
  | storing (alertContext : Nat) (uid : Uid) (document : UserDocument)
  deriving DecidableEq, Repr

/-- The dialog that the call opened. -/
def SignUpFrame.alertContext : SignUpFrame → Nat
  | .creating _ alertContext _ => alertContext
  | .storing alertContext _ _ => alertContext

namespace CreateButton

open NewAccountPage (showDialog createAccount emptyFieldText)
open NewAccountStore (navigatorCell firebaseCell)

/-- `onPressed` of the create button up to its first `await`. -/
def create (page : Nat) : Program FirebaseError NewAccountStore (Suspension SignUpFrame) := do
  let form := (← get).forms page
  if form.Filled then
    let alertContext ← showDialog .progress
    return some (.creating page alertContext form.credentials, 0)
  else
    let _ ← showDialog (.alert emptyFieldText)
    return none

/-- `onPressed` between its two awaits. -/
def created (service : FirebaseService) (creation : Except FirebaseError Uid) (now : Int)
    (page alertContext : Nat) (credentials : Credentials) :
    Program FirebaseError NewAccountStore (Suspension SignUpFrame) := do
  createAccount service credentials creation
  let uid ← Program.nonNull (← get).firebase.currentUser
  let document := { name := ((← get).forms page).name, date := now }
  return some (.storing alertContext uid document, 0)

/-- `onPressed` after its last `await`. -/
def stored (service : FirebaseService) (storing : Except FirebaseError Unit)
    (alertContext : Nat) (uid : Uid) (document : UserDocument) :
    Program FirebaseError NewAccountStore (Suspension SignUpFrame) := do
  (service.set uid document storing).within firebaseCell
  (Navigator.popFrom alertContext).within navigatorCell
  return none

end CreateButton

/-- The answer of a service to the request that a call awaits. -/
inductive SignUpAnswer where
  | creation (outcome : Except FirebaseError Uid) (now : Int)
  | storing (outcome : Except FirebaseError Unit)

namespace SignUpAnswer

/-- An answer answers the request of its kind. -/
def answers : SignUpAnswer → SignUpFrame → Bool
  | .creation _ _, .creating _ _ _ => true
  | .storing _, .storing _ _ _ => true
  | _, _ => false

/-- How the handler goes on with an answer. -/
def continuation (service : FirebaseService) (answer : SignUpAnswer) (frame : SignUpFrame) :
    Program FirebaseError NewAccountStore (Suspension SignUpFrame) :=
  match answer, frame with
  | .creation outcome now, .creating page alertContext credentials =>
      CreateButton.created service outcome now page alertContext credentials
  | .storing outcome, .storing alertContext uid document =>
      CreateButton.stored service outcome alertContext uid document
  | _, frame => return some (frame, 0)

/-- A creation that succeeds gives a uid that no account had before. -/
def Fresh (firebase : Firebase) : SignUpAnswer → Prop
  | .creation outcome _ => NewAccountPage.IsFresh firebase outcome
  | .storing _ => True

instance (firebase : Firebase) : ∀ answer, Decidable (Fresh firebase answer)
  | .creation outcome _ => inferInstanceAs (Decidable (NewAccountPage.IsFresh firebase outcome))
  | .storing _ => .isTrue trivial

end SignUpAnswer

/-- The calls of the handler made so far, by any new account page. -/
abbrev SignUpRequests := Isolate FirebaseError NewAccountStore SignUpFrame

namespace SignUpRequests

/-- A service answers a call that awaits it. -/
def answer (service : FirebaseService) (call : Nat) (answer : SignUpAnswer)
    (requests : SignUpRequests) : Option SignUpRequests :=
  match requests.activations[call]? with
  | some (.suspended frame _) =>
      if answer.answers frame ∧ answer.Fresh requests.store.firebase then
        requests.resume (answer.continuation service) call
      else none
  | _ => none

end SignUpRequests

end FacebookApp

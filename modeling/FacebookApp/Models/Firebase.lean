import FacebookApp.Library.Program
import Mathlib.Logic.Function.Basic

/-!
# Firebase

The authentication and document services, which are outside of the app: what the app
relies on is stated as laws of a service, and one service that has them is given.
-/

set_option autoImplicit false

namespace FacebookApp

open Dart

inductive FirebaseError where
  | firebaseAuthException (code : String)
  | other
  deriving DecidableEq, Repr

namespace FirebaseError

def isFirebaseAuthException : FirebaseError → Bool
  | .firebaseAuthException _ => true
  | .other => false

end FirebaseError

structure Credentials where
  email : String
  password : String
  deriving DecidableEq, Repr

abbrev Uid := String

structure UserCredential where
  user : Option Uid
  deriving DecidableEq, Repr

/-- A document of the collection `user`. The date is in milliseconds. -/
structure UserDocument where
  name : String
  date : Int
  deriving DecidableEq, Repr

/-- What the app can see of the services. -/
structure Firebase where
  accounts : List (Uid × Credentials)
  currentUser : Option Uid
  user : Uid → Option UserDocument
  verificationMails : List Uid := []

def Firebase.noAccounts : Firebase where
  accounts := []
  currentUser := none
  user := fun _ => none

/-- What the requests that succeed change. -/
structure FirebaseService where
  createUser : Uid → Credentials → Firebase → Firebase
  sendVerificationMail : Uid → Firebase → Firebase
  setUser : Uid → UserDocument → Firebase → Firebase
  signIn : Uid → Firebase → Firebase
  signOut : Firebase → Firebase

namespace FirebaseService

/-- Creating an account signs the new user in, and only storing a document changes one. -/
structure Laws (service : FirebaseService) : Prop where
  accounts_createUser : ∀ uid credentials firebase,
    (service.createUser uid credentials firebase).accounts =
      firebase.accounts ++ [(uid, credentials)]
  currentUser_createUser : ∀ uid credentials firebase,
    (service.createUser uid credentials firebase).currentUser = some uid
  user_createUser : ∀ uid credentials firebase,
    (service.createUser uid credentials firebase).user = firebase.user
  accounts_sendVerificationMail : ∀ uid firebase,
    (service.sendVerificationMail uid firebase).accounts = firebase.accounts
  currentUser_sendVerificationMail : ∀ uid firebase,
    (service.sendVerificationMail uid firebase).currentUser = firebase.currentUser
  user_sendVerificationMail : ∀ uid firebase,
    (service.sendVerificationMail uid firebase).user = firebase.user
  accounts_setUser : ∀ uid document firebase,
    (service.setUser uid document firebase).accounts = firebase.accounts
  user_setUser : ∀ uid document firebase,
    (service.setUser uid document firebase).user =
      Function.update firebase.user uid (some document)
  user_signIn : ∀ uid firebase, (service.signIn uid firebase).user = firebase.user
  user_signOut : ∀ firebase, (service.signOut firebase).user = firebase.user

/-- A service in memory. -/
def inMemory : FirebaseService where
  createUser := fun uid credentials firebase =>
    { firebase with
      accounts := firebase.accounts ++ [(uid, credentials)]
      currentUser := some uid }
  sendVerificationMail := fun uid firebase =>
    { firebase with verificationMails := firebase.verificationMails ++ [uid] }
  setUser := fun uid document firebase =>
    { firebase with user := Function.update firebase.user uid (some document) }
  signIn := fun uid firebase => { firebase with currentUser := some uid }
  signOut := fun firebase => { firebase with currentUser := none }

theorem inMemory_laws : inMemory.Laws where
  accounts_createUser := fun _ _ _ => rfl
  currentUser_createUser := fun _ _ _ => rfl
  user_createUser := fun _ _ _ => rfl
  accounts_sendVerificationMail := fun _ _ => rfl
  currentUser_sendVerificationMail := fun _ _ => rfl
  user_sendVerificationMail := fun _ _ => rfl
  accounts_setUser := fun _ _ _ => rfl
  user_setUser := fun _ _ _ => rfl
  user_signIn := fun _ _ => rfl
  user_signOut := fun _ => rfl

/-! ## Requests with the answers that they get -/

variable (service : FirebaseService)

def createUserWithEmailAndPassword (credentials : Credentials)
    (outcome : Except FirebaseError Uid) : Program FirebaseError Firebase UserCredential :=
  match outcome with
  | .ok uid => do
      modify (service.createUser uid credentials)
      return { user := some uid }
  | .error error => throw (.thrown error)

def sendEmailVerification (uid : Uid) : Program FirebaseError Firebase Unit :=
  modify (service.sendVerificationMail uid)

/-- `set` of the document of a user. -/
def set (uid : Uid) (document : UserDocument) (outcome : Except FirebaseError Unit) :
    Program FirebaseError Firebase Unit :=
  match outcome with
  | .ok _ => modify (service.setUser uid document)
  | .error error => throw (.thrown error)

end FirebaseService

end FacebookApp

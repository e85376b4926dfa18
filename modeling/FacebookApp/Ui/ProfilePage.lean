import FacebookApp.Library.EventSystem
import FacebookApp.Library.StreamBuilder

/-!
# Profile page

The name of the signed-in user in the header and in the body. The builder of the header
hands the name in the document of the user on to the bloc while it is being built; the
builder of the body listens to the bloc.
-/

set_option autoImplicit false

namespace FacebookApp

open Dart Flutter

/-- What the header is built with: no answer yet, a failure, no document, or a document,
with the text of its name if it has that field. -/
inductive UserSnapshot where
  | waiting
  | error
  | missing
  | document (name : Option String)
  deriving DecidableEq, Repr

/-- The widgets of the name. The last one stands for a builder that threw. -/
inductive NameWidget where
  | indicator
  | loading
  | text (name : String)
  | errorWidget
  deriving DecidableEq, Repr

structure ProfileBloc where
  userName : BehaviorSubject String := .unseeded
  deriving DecidableEq

namespace ProfileBloc

def userNameCell : Cell ProfileBloc (BehaviorSubject String) where
  read := userName
  write := fun subject bloc => { bloc with userName := subject }

def updateUserName (name : String) : Program Empty ProfileBloc Unit := userNameCell.add name

def dispose (bloc : ProfileBloc) : ProfileBloc := { bloc with userName := bloc.userName.close }

end ProfileBloc

/-- The page and the names that were drawn in its last frame. -/
structure ProfilePage where
  bloc : ProfileBloc
  header : NameWidget
  /-- The snapshot that the body was built with. -/
  userName : Option String
  /-- How many builds of the header ended with an error. -/
  failures : Nat
  mounted : Bool

namespace ProfilePage

/-- The builder of the header. A document without a name throws. -/
def buildHeader : UserSnapshot → Program Empty ProfileBloc NameWidget
  | .error => return .indicator
  | .document (some name) => do
      ProfileBloc.updateUserName name
      return .text name
  | .document none => throw .stateError
  | .missing | .waiting => return .loading

/-- The builder of the body. -/
def body (page : ProfilePage) : NameWidget :=
  match page.userName with
  | some name => .text name
  | none => .loading

variable (snapshots : Snapshots)

/-- The page after its first frame, in which no answer has come. -/
def initial : ProfilePage where
  bloc := {}
  header := .loading
  userName := snapshots.first (BehaviorSubject.unseeded : BehaviorSubject String)
  failures := 0
  mounted := true

/-- A frame, with the snapshot of the header if that is built in it. What the header
publishes has not come to the body yet. -/
def frame (snapshot : Option UserSnapshot) (page : ProfilePage) : ProfilePage :=
  let userName := snapshots.later page.bloc.userName page.userName
  match snapshot with
  | none => { page with userName }
  | some snapshot =>
      match (buildHeader snapshot).run page.bloc with
      | .ok header bloc => { page with bloc, header, userName }
      | .error _ bloc =>
          { page with bloc, header := .errorWidget, userName, failures := page.failures + 1 }

inductive Event where
  | frame (snapshot : Option UserSnapshot)
  | dispose
  deriving DecidableEq

def step (page : ProfilePage) : Event → Option ProfilePage
  | .frame snapshot => if page.mounted then some (page.frame snapshots snapshot) else none
  | .dispose =>
      if page.mounted then some { page with bloc := page.bloc.dispose, mounted := false }
      else none

def system : EventSystem ProfilePage Event where
  step := step snapshots

/-- The names that the header shows in the frames of a run. -/
def headerNames (_ : ProfilePage) (event : Event) (next : ProfilePage) : List String :=
  match event, next.header with
  | .frame _, .text name => [name]
  | _, _ => []

end ProfilePage

end FacebookApp

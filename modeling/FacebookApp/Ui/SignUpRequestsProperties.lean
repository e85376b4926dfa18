import FacebookApp.Ui.SignUpRequests

/-!
# Properties of sign-up requests

What the stretches of the create handler do, that they make up the handler when nothing
comes between them, and what an answer to a call can be.
-/

set_option autoImplicit false

namespace FacebookApp

open Dart Flutter

namespace CreateButton

open NewAccountPage (createAccount emptyFieldText onPressed)

variable {service : FirebaseService}

/-- The handler is what its stretches do in a row. -/
theorem onPressed_eq_uninterrupted (service : FirebaseService) (page : Nat)
    (creation : Except FirebaseError Uid) (storing : Except FirebaseError Unit) (now : Int) :
    onPressed service page creation storing now = uninterrupted (create page)
      [(SignUpAnswer.creation creation now).continuation service,
        (SignUpAnswer.storing storing).continuation service] := by
  simp only [onPressed, uninterrupted, create, bind_assoc]
  refine bind_congr fun store => ?_
  split
  · simp only [bind_assoc, pure_bind, SignUpAnswer.continuation, created, stored, bind_pure_unit]
  · simp only [bind_assoc, pure_bind]

/-! ## The stretches of the handler -/

def afterCreation (service : FirebaseService) (credentials : Credentials) (firebase : Firebase) :
    Except FirebaseError Uid → Firebase
  | .ok uid => service.sendVerificationMail uid (service.createUser uid credentials firebase)
  | .error _ => firebase

theorem currentUser_afterCreation (lawful : service.Laws) (credentials : Credentials)
    (firebase : Firebase) (creation : Except FirebaseError Uid) :
    (afterCreation service credentials firebase creation).currentUser =
      match creation with
      | .ok uid => some uid
      | .error _ => firebase.currentUser := by
  cases creation with
  | ok uid =>
      exact (lawful.currentUser_sendVerificationMail uid _).trans
        (lawful.currentUser_createUser uid credentials firebase)
  | error error => rfl

theorem user_afterCreation (lawful : service.Laws) (credentials : Credentials)
    (firebase : Firebase) (creation : Except FirebaseError Uid) :
    (afterCreation service credentials firebase creation).user = firebase.user := by
  cases creation with
  | ok uid =>
      exact (lawful.user_sendVerificationMail uid _).trans
        (lawful.user_createUser uid credentials firebase)
  | error error => rfl

theorem accounts_afterCreation (lawful : service.Laws) (credentials : Credentials)
    (firebase : Firebase) (uid : Uid) :
    (afterCreation service credentials firebase (.ok uid)).accounts =
      firebase.accounts ++ [(uid, credentials)] :=
  (lawful.accounts_sendVerificationMail uid _).trans
    (lawful.accounts_createUser uid credentials firebase)

theorem run_create_filled {store : NewAccountStore} {page : Nat}
    (filled : (store.forms page).Filled) :
    (create page).run store =
      .ok (some (.creating page store.navigator.opened
          (store.forms page).credentials, 0))
        { store with navigator := store.navigator.push .progress } := by
  simp only [create, EStateM.run_bind, EStateM.run_get, if_pos filled]
  rfl

theorem run_create_empty {store : NewAccountStore} {page : Nat}
    (empty : ¬ (store.forms page).Filled) :
    (create page).run store = .ok none
      { store with navigator := store.navigator.push (.alert emptyFieldText) } := by
  simp only [create, EStateM.run_bind, EStateM.run_get, if_neg empty]
  rfl

theorem run_createAccount (service : FirebaseService) (store : NewAccountStore)
    (credentials : Credentials) (creation : Except FirebaseError Uid) :
    (createAccount service credentials creation).run store =
      .ok () { store with
        firebase := afterCreation service credentials store.firebase creation } := by
  cases creation with
  | ok uid => rfl
  | error error => rfl

section Created

variable (store : NewAccountStore) {credentials : Credentials}
  {creation : Except FirebaseError Uid}

theorem run_created_signedIn {uid : Uid}
    (signedIn : (afterCreation service credentials store.firebase creation).currentUser =
      some uid) (now : Int) (page alertContext : Nat) :
    (created service creation now page alertContext credentials).run store =
      .ok (some (.storing alertContext uid { name := (store.forms page).name, date := now }, 0))
        { store with firebase := afterCreation service credentials store.firebase creation } := by
  simp only [created, EStateM.run_bind, run_createAccount, EStateM.run_get, signedIn,
    Program.run_nonNull_some]
  rfl

theorem run_created_nobody
    (nobody : (afterCreation service credentials store.firebase creation).currentUser = none)
    (now : Int) (page alertContext : Nat) :
    (created service creation now page alertContext credentials).run store =
      .error .nullCheckError
        { store with firebase := afterCreation service credentials store.firebase creation } := by
  simp only [created, EStateM.run_bind, run_createAccount, EStateM.run_get, nobody,
    Program.run_nonNull_none]

end Created

section Stored

variable {store : NewAccountStore} {alertContext : Nat}

theorem run_stored_closing (can : store.navigator.CanPopFrom alertContext) (uid : Uid)
    (document : UserDocument) :
    (stored service (.ok ()) alertContext uid document).run store = .ok none
      { store with
        navigator := store.navigator.pop
        firebase := service.setUser uid document store.firebase } := by
  have popped : (Navigator.popFrom alertContext : Program FirebaseError _ _).run _ = _ :=
    Navigator.run_popFrom can
  simp only [stored, EStateM.run_bind, FirebaseService.set, Program.run_within,
    NewAccountStore.firebaseCell, NewAccountStore.navigatorCell, EStateM.run_modify, popped]
  rfl

theorem run_stored_failing (service : FirebaseService) (cannot : ¬ store.navigator.CanPopFrom alertContext) (uid : Uid)
    (document : UserDocument) :
    ∃ error, (stored service (.ok ()) alertContext uid document).run store = .error error
      { store with firebase := service.setUser uid document store.firebase } := by
  obtain ⟨error, failed⟩ : ∃ error,
      (Navigator.popFrom alertContext : Program FirebaseError _ _).run _ = .error error _ :=
    Navigator.run_popFrom_fails cannot
  refine ⟨error, ?_⟩
  simp only [stored, EStateM.run_bind, FirebaseService.set, Program.run_within,
    NewAccountStore.firebaseCell, NewAccountStore.navigatorCell, EStateM.run_modify, failed]

theorem run_stored_refused (store : NewAccountStore) (error : FirebaseError)
    (alertContext : Nat) (uid : Uid) (document : UserDocument) :
    (stored service (.error error) alertContext uid document).run store =
      .error (.thrown error) store := rfl

end Stored

end CreateButton

namespace SignUpRequests

open CreateButton (afterCreation)

/-! ## Presses -/

section Presses

variable {requests : SignUpRequests} {page : Nat}

theorem call_create_filled (filled : (requests.store.forms page).Filled) :
    requests.call (CreateButton.create page) = { requests with
      store := { requests.store with navigator := requests.store.navigator.push .progress }
      activations := requests.activations ++
        [.suspended (.creating page requests.store.navigator.opened
          (requests.store.forms page).credentials) requests.now] } := by
  simp only [Isolate.call, CreateButton.run_create_filled filled]
  rfl

theorem call_create_empty (empty : ¬ (requests.store.forms page).Filled) :
    requests.call (CreateButton.create page) = { requests with
      store := { requests.store with
        navigator := requests.store.navigator.push (.alert NewAccountPage.emptyFieldText) }
      activations := requests.activations ++ [.returned] } := by
  simp only [Isolate.call, CreateButton.run_create_empty empty]
  rfl

theorem forms_create (requests : SignUpRequests) (page : Nat) :
    (requests.call (CreateButton.create page)).store.forms = requests.store.forms := by
  by_cases filled : (requests.store.forms page).Filled
  · rw [call_create_filled filled]
  · rw [call_create_empty filled]

/-- A call in flight after a press is an earlier one or the new one. -/
theorem suspended_of_create {call due : Nat} {frame : SignUpFrame}
    (found : (requests.call (CreateButton.create page)).activations[call]? =
      some (.suspended frame due)) :
    requests.activations[call]? = some (.suspended frame due) ∨
      (requests.store.forms page).Filled ∧ call = requests.activations.length ∧
        frame = .creating page requests.store.navigator.opened
          (requests.store.forms page).credentials := by
  have concat : ∀ activation, (requests.activations ++ [activation])[call]? =
        some (.suspended frame due) → requests.activations[call]? = some (.suspended frame due) ∨
          call = requests.activations.length ∧ activation = .suspended frame due := by
    intro activation found
    rw [List.getElem?_append] at found
    split at found
    · exact .inl found
    · obtain ⟨bound, entry⟩ := List.getElem?_eq_some_iff.mp found
      simp only [List.length_singleton] at bound
      simp only [List.getElem_singleton] at entry
      exact .inr ⟨by omega, entry⟩
  by_cases filled : (requests.store.forms page).Filled
  · rw [call_create_filled filled] at found
    rcases concat _ found with before | ⟨last, new⟩
    · exact .inl before
    · cases new
      exact .inr ⟨filled, last, rfl⟩
  · rw [call_create_empty filled] at found
    rcases concat _ found with before | ⟨_, new⟩
    · exact .inl before
    · cases new

end Presses

/-! ## Answers -/

/-- A call goes on to the storing of the document, or is over. Only a document that is
stored pops a route, when the dialog of its call is still mounted. -/
inductive Answered (service : FirebaseService) (requests : SignUpRequests) (call : Nat) :
    SignUpAnswer → SignUpRequests → Prop where
  | created {page alertContext : Nat} {credentials : Credentials} {due : Nat}
      {creation : Except FirebaseError Uid} {now : Int} {uid : Uid}
      (found : requests.activations[call]? =
        some (.suspended (.creating page alertContext credentials) due))
      (signedIn : (afterCreation service credentials requests.store.firebase
        creation).currentUser = some uid) :
      Answered service requests call (.creation creation now) { requests with
        store := { requests.store with
          firebase := afterCreation service credentials requests.store.firebase creation }
        activations := requests.activations.set call (.suspended (.storing alertContext uid
          { name := (requests.store.forms page).name, date := now }) requests.now) }
  | nobody {page alertContext : Nat} {credentials : Credentials} {due : Nat}
      {creation : Except FirebaseError Uid} {now : Int}
      (found : requests.activations[call]? =
        some (.suspended (.creating page alertContext credentials) due))
      (nobody : (afterCreation service credentials requests.store.firebase
        creation).currentUser = none) :
      Answered service requests call (.creation creation now) { requests with
        store := { requests.store with
          firebase := afterCreation service credentials requests.store.firebase creation }
        activations := requests.activations.set call (.failed .nullCheckError) }
  | closed {alertContext : Nat} {uid : Uid} {document : UserDocument} {due : Nat}
      (found : requests.activations[call]? =
        some (.suspended (.storing alertContext uid document) due))
      (can : requests.store.navigator.CanPopFrom alertContext) :
      Answered service requests call (.storing (.ok ())) { requests with
        store := { requests.store with
          navigator := requests.store.navigator.pop
          firebase := service.setUser uid document requests.store.firebase }
        activations := requests.activations.set call .returned }
  | unclosed {alertContext : Nat} {uid : Uid} {document : UserDocument} {due : Nat}
      {error : Error FirebaseError}
      (found : requests.activations[call]? =
        some (.suspended (.storing alertContext uid document) due))
      (cannot : ¬ requests.store.navigator.CanPopFrom alertContext) :
      Answered service requests call (.storing (.ok ())) { requests with
        store := { requests.store with
          firebase := service.setUser uid document requests.store.firebase }
        activations := requests.activations.set call (.failed error) }
  | refused {alertContext : Nat} {uid : Uid} {document : UserDocument} {due : Nat}
      {error : FirebaseError}
      (found : requests.activations[call]? =
        some (.suspended (.storing alertContext uid document) due)) :
      Answered service requests call (.storing (.error error)) { requests with
        activations := requests.activations.set call (.failed (.thrown error)) }

theorem answered_of_answer {service : FirebaseService} {requests next : SignUpRequests}
    {call : Nat} {answer : SignUpAnswer}
    (answering : requests.answer service call answer = some next) :
    Answered service requests call answer next := by
  simp only [SignUpRequests.answer] at answering
  split at answering
  · rename_i frame due found
    simp only [Option.ite_none_right_eq_some] at answering
    obtain ⟨⟨answers, _⟩, resumed⟩ := answering
    obtain ⟨frame', due', found', _, rfl⟩ := Isolate.resume_eq_some_iff.mp resumed
    rw [found] at found'
    cases found'
    cases answer with
    | creation creation now =>
        cases frame with
        | storing alertContext uid document => cases answers
        | creating page alertContext credentials =>
            simp only [SignUpAnswer.continuation]
            cases user : (afterCreation service credentials requests.store.firebase
                creation).currentUser with
            | some uid =>
                rw [CreateButton.run_created_signedIn requests.store user]
                exact .created found user
            | none =>
                rw [CreateButton.run_created_nobody requests.store user]
                exact .nobody found user
    | storing outcome =>
        cases frame with
        | creating page alertContext credentials => cases answers
        | storing alertContext uid document =>
            simp only [SignUpAnswer.continuation]
            cases outcome with
            | ok done =>
                by_cases can : requests.store.navigator.CanPopFrom alertContext
                · rw [CreateButton.run_stored_closing can]
                  exact .closed found can
                · obtain ⟨error, ran⟩ :=
                    CreateButton.run_stored_failing service can uid document
                  rw [ran]
                  exact .unclosed found can
            | error error =>
                rw [CreateButton.run_stored_refused]
                exact .refused found
  · cases answering

end SignUpRequests

end FacebookApp

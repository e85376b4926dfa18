import FacebookApp.Ui.SignUpRequestsProperties

/-!
# Properties of the new account page

The handler goes on after a creation that failed. It then writes to the document
of whoever is signed in, or throws before it pops its progress dialog.
-/

set_option autoImplicit false

namespace FacebookApp

open Dart Flutter

namespace NewAccountPage

open CreateButton (afterCreation onPressed_eq_uninterrupted)

variable {service : FirebaseService}

/-! ## The handler of the create button -/

theorem run_onPressed_empty {page : Nat} {store : NewAccountStore}
    (empty : ¬ (store.forms page).Filled) (creation : Except FirebaseError Uid)
    (storing : Except FirebaseError Unit) (now : Int) :
    (onPressed service page creation storing now).run store = .ok ()
      { store with navigator := store.navigator.push (.alert emptyFieldText) } := by
  rw [onPressed_eq_uninterrupted]
  exact run_uninterrupted_returned (CreateButton.run_create_empty empty) _

section Filled

variable {page : Nat} {store : NewAccountStore} {creation : Except FirebaseError Uid}

theorem run_onPressed_nobody (filled : (store.forms page).Filled)
    (nobody : (afterCreation service (store.forms page).credentials store.firebase
      creation).currentUser = none)
    (storing : Except FirebaseError Unit) (now : Int) :
    (onPressed service page creation storing now).run store = .error .nullCheckError
      { store with
        navigator := store.navigator.push .progress
        firebase := afterCreation service (store.forms page).credentials store.firebase
          creation } := by
  rw [onPressed_eq_uninterrupted,
    run_uninterrupted_suspended (CreateButton.run_create_filled filled)]
  exact run_uninterrupted_failed (CreateButton.run_created_nobody
    { store with navigator := store.navigator.push .progress } nobody now page _) _

/-- With somebody signed in after the creation, the rest of the handler is the storing. -/
theorem run_onPressed_signedIn (filled : (store.forms page).Filled) {uid : Uid}
    (signedIn : (afterCreation service (store.forms page).credentials store.firebase
      creation).currentUser = some uid)
    (storing : Except FirebaseError Unit) (now : Int) :
    (onPressed service page creation storing now).run store =
      (uninterrupted (CreateButton.stored service storing store.navigator.opened uid
        { name := (store.forms page).name, date := now }) []).run
      { store with
        navigator := store.navigator.push .progress
        firebase := afterCreation service (store.forms page).credentials store.firebase
          creation } := by
  rw [onPressed_eq_uninterrupted,
    run_uninterrupted_suspended (CreateButton.run_create_filled filled)]
  exact run_uninterrupted_suspended (CreateButton.run_created_signedIn
    { store with navigator := store.navigator.push .progress } signedIn now page _) _ _

/-- The document of the signed-in user is set, whether the creation succeeded or
not. -/
theorem run_onPressed_stored (filled : (store.forms page).Filled) {uid : Uid}
    (signedIn : (afterCreation service (store.forms page).credentials store.firebase
      creation).currentUser = some uid) (now : Int) :
    (onPressed service page creation (.ok ()) now).run store = .ok ()
      { store with
        navigator := (store.navigator.push .progress).pop
        firebase := service.setUser uid { name := (store.forms page).name, date := now }
          (afterCreation service (store.forms page).credentials store.firebase creation) } := by
  have can : (store.navigator.push .progress).CanPopFrom store.navigator.opened :=
    ⟨Navigator.isMounted_opened_push _ _, List.cons_ne_nil _ _⟩
  rw [run_onPressed_signedIn filled signedIn]
  exact run_uninterrupted_returned (CreateButton.run_stored_closing can uid _) _

theorem run_onPressed_refused (filled : (store.forms page).Filled) {uid : Uid}
    (signedIn : (afterCreation service (store.forms page).credentials store.firebase
      creation).currentUser = some uid) (error : FirebaseError) (now : Int) :
    (onPressed service page creation (.error error) now).run store = .error (.thrown error)
      { store with
        navigator := store.navigator.push .progress
        firebase := afterCreation service (store.forms page).credentials store.firebase
          creation } := by
  rw [run_onPressed_signedIn filled signedIn]
  exact run_uninterrupted_failed (CreateButton.run_stored_refused _ error _ uid _) _

end Filled

/-! ## The progress dialog -/

theorem signedIn_afterCreation (lawful : service.Laws) (credentials : Credentials)
    (firebase : Firebase) (creation : Except FirebaseError Uid) :
    (afterCreation service credentials firebase creation).currentUser ≠ none ↔
      creation.isOk = true ∨ firebase.currentUser ≠ none := by
  rw [CreateButton.currentUser_afterCreation lawful]
  cases creation <;> simp [Except.isOk, Except.toBool]

/-- The progress dialog of a press is popped exactly once exactly when the document
is stored and somebody is signed in after the creation. -/
theorem progress_popped_once (lawful : service.Laws) (page : Nat) (store : NewAccountStore)
    (filled : (store.forms page).Filled) (creation : Except FirebaseError Uid)
    (storing : Except FirebaseError Unit) (now : Int) :
    (finalStore ((onPressed service page creation storing now).run store)).navigator.popped.count
        store.navigator.opened = 1 ↔
      storing.isOk = true ∧ (creation.isOk = true ∨ store.firebase.currentUser ≠ none) := by
  rw [← signedIn_afterCreation lawful (store.forms page).credentials]
  cases user : (afterCreation service (store.forms page).credentials store.firebase
      creation).currentUser with
  | none =>
      rw [run_onPressed_nobody filled user]
      simp
  | some uid =>
      cases storing with
      | ok stored =>
          rw [run_onPressed_stored filled user]
          simp [Except.isOk, Except.toBool]
      | error error =>
          rw [run_onPressed_refused filled user]
          simp [Except.isOk, Except.toBool]

def filledForm : NewAccountStore where
  forms := fun _ => { id := "ann@example.com", pw := "secret", name := "Ann" }
  navigator := .start .newAccountPage
  firebase := .noAccounts

theorem progress_popped_once_created :
    (finalStore ((onPressed .inMemory 0 (.ok "a") (.ok ()) 0).run
      filledForm)).navigator.popped.count 1 = 1 :=
  (progress_popped_once FirebaseService.inMemory_laws 0 filledForm (by decide) (.ok "a") (.ok ())
    0).mpr (by decide)

/-- A creation that fails while nobody is signed in ends the handler with the
dialog still on top. -/
theorem progress_stays :
    ∃ left, (onPressed .inMemory 0 (.error (.firebaseAuthException "email-already-in-use"))
        (.ok ()) 0).run filledForm = .error .nullCheckError left ∧
      left.navigator.popped.count filledForm.navigator.opened = 0 ∧
      left.navigator.routes = [(1, .progress), (0, .newAccountPage)] :=
  ⟨_, rfl, rfl, rfl⟩

/-! ## The documents -/

inductive Pressed (service : FirebaseService) (page : NewAccountPage) (now : Int) :
    Except FirebaseError Uid → NewAccountPage → Prop where
  | ignored {creation : Except FirebaseError Uid} {next : NewAccountPage}
      (empty : ¬ page.form.Filled) (firebase : next.store.firebase = page.store.firebase)
      (created : next.created = page.created) : Pressed service page now creation next
  | created {uid : Uid} {next : NewAccountPage}
      (fresh : uid ∉ page.store.firebase.accounts.map (·.1))
      (firebase : next.store.firebase = service.setUser uid
        { name := page.form.name, date := now }
        (afterCreation service page.form.credentials page.store.firebase (.ok uid)))
      (created : next.created = page.created ++ [(uid, page.form.name)]) :
      Pressed service page now (.ok uid) next
  | nobody {error : FirebaseError} {next : NewAccountPage}
      (nobody : page.store.firebase.currentUser = none)
      (firebase : next.store.firebase = page.store.firebase)
      (created : next.created = page.created) : Pressed service page now (.error error) next
  | overwritten {error : FirebaseError} {uid : Uid} {next : NewAccountPage}
      (filled : page.form.Filled)
      (signedIn : page.store.firebase.currentUser = some uid)
      (firebase : next.store.firebase = service.setUser uid
        { name := page.form.name, date := now } page.store.firebase)
      (created : next.created = page.created) : Pressed service page now (.error error) next

theorem pressed_of_step (lawful : service.Laws) {page next : NewAccountPage}
    {creation : Except FirebaseError Uid} {now : Int}
    (stepped : (system service).step page (.press creation now) = some next) :
    Pressed service page now creation next := by
  simp only [system, step, Option.ite_none_right_eq_some, Option.some.injEq] at stepped
  obtain ⟨fresh, rfl⟩ := stepped
  by_cases filled : page.form.Filled
  · cases creation with
    | ok uid =>
        have signedIn := CreateButton.currentUser_afterCreation lawful
          page.form.credentials page.store.firebase (.ok uid)
        have ran := run_onPressed_stored filled signedIn now
        refine .created fresh ?_ ?_
        · rw [ran]
          rfl
        · simp [newAccount, filled]
    | error error =>
        have created : newAccount page.form (.error error) = [] := rfl
        let firebase := afterCreation service page.form.credentials page.store.firebase
          (.error error)
        cases user : page.store.firebase.currentUser with
        | none =>
            have nobody : firebase.currentUser = none := user
            have ran := run_onPressed_nobody filled nobody (.ok ()) now
            refine .nobody user ?_ (by simp [created])
            rw [ran]
            rfl
        | some uid =>
            have signedIn : firebase.currentUser = some uid := user
            have ran := run_onPressed_stored filled signedIn now
            refine .overwritten filled user ?_ (by simp [created])
            rw [ran]
            rfl
  · have ran : (onPressed service _ creation (.ok ()) now).run page.store = _ :=
      run_onPressed_empty filled creation (.ok ()) now
    refine .ignored filled ?_ ?_
    · rw [ran]
      rfl
    · cases creation <;> simp [newAccount, filled]

structure Sound (page : NewAccountPage) : Prop where
  agree : DocumentsAgree page
  known : ∀ {uid : Uid} {name : String}, (uid, name) ∈ page.created →
    uid ∈ page.store.firebase.accounts.map (·.1)

theorem Sound.of_same {page next : NewAccountPage} (sound : Sound page)
    (user : next.store.firebase.user = page.store.firebase.user)
    (accounts : next.store.firebase.accounts = page.store.firebase.accounts)
    (created : next.created = page.created) : Sound next := by
  constructor
  · intro uid name member
    rw [created] at member
    rw [user]
    exact sound.agree uid name member
  · intro uid name member
    rw [created] at member
    rw [accounts]
    exact sound.known member

theorem Sound.created (lawful : service.Laws) {page next : NewAccountPage} (sound : Sound page)
    {uid : Uid} {now : Int} (fresh : uid ∉ page.store.firebase.accounts.map (·.1))
    (firebase : next.store.firebase = service.setUser uid { name := page.form.name, date := now }
      (afterCreation service page.form.credentials page.store.firebase (.ok uid)))
    (created : next.created = page.created ++ [(uid, page.form.name)]) : Sound next := by
  constructor
  · intro other name member
    rw [created] at member
    rw [firebase, lawful.user_setUser, CreateButton.user_afterCreation lawful]
    rcases List.mem_append.mp member with earlier | new
    · have different : other ≠ uid := by
        intro same
        exact fresh (same ▸ sound.known earlier)
      simpa [different] using sound.agree other name earlier
    · cases List.mem_singleton.mp new
      simp
  · intro other name member
    rw [created] at member
    rw [firebase, lawful.accounts_setUser, CreateButton.accounts_afterCreation lawful,
      List.map_append]
    rcases List.mem_append.mp member with earlier | new
    · exact List.mem_append_left _ (sound.known earlier)
    · cases List.mem_singleton.mp new
      exact List.mem_append_right _ List.mem_cons_self

theorem user_setUser_eq_iff (lawful : service.Laws) (firebase : Firebase) (uid : Uid)
    (document : UserDocument) :
    (service.setUser uid document firebase).user = firebase.user ↔
      firebase.user uid = some document := by
  rw [lawful.user_setUser, Function.update_eq_self_iff]
  exact eq_comm

theorem Sound.press (lawful : service.Laws) {page next : NewAccountPage} (sound : Sound page)
    {creation : Except FirebaseError Uid} {now : Int}
    (pressed : Pressed service page now creation next)
    (harmless : failsHarmlessly page (.press creation now) = true) :
    Sound next ∧ (creation.isOk = false →
      next.store.firebase.user = page.store.firebase.user) := by
  cases pressed with
  | ignored empty firebase created =>
      exact ⟨sound.of_same (by rw [firebase]) (by rw [firebase]) created, fun _ => by rw [firebase]⟩
  | created fresh firebase created =>
      exact ⟨sound.created lawful fresh firebase created, nofun⟩
  | nobody nobody firebase created =>
      exact ⟨sound.of_same (by rw [firebase]) (by rw [firebase]) created, fun _ => by rw [firebase]⟩
  | overwritten filled signedIn firebase created =>
      have same : next.store.firebase.user = page.store.firebase.user := by
        rw [firebase, user_setUser_eq_iff lawful]
        simpa [failsHarmlessly, filled, signedIn] using harmless
      refine ⟨sound.of_same same ?_ created, fun _ => same⟩
      rw [firebase, lawful.accounts_setUser]

theorem Pressed.harmless (lawful : service.Laws) {page next : NewAccountPage}
    {error : FirebaseError} {now : Int} (pressed : Pressed service page now (.error error) next)
    (same : next.store.firebase.user = page.store.firebase.user) :
    failsHarmlessly page (.press (.error error) now) = true := by
  cases pressed with
  | ignored empty firebase created => simp [failsHarmlessly, empty]
  | nobody nobody firebase created => simp [failsHarmlessly, nobody]
  | overwritten filled signedIn firebase created =>
      rw [firebase, user_setUser_eq_iff lawful] at same
      simp [failsHarmlessly, signedIn, same]

/-- In a run the documents of the created accounts always hold the names typed, and
no failed creation changes a document, exactly when every press whose creation
fails finds nobody signed in or the document that it writes. -/
theorem documents_agree (lawful : service.Laws) (firebase : Firebase) {events : List Event}
    {page : NewAccountPage}
    (ran : (system service).run (initial firebase) events = some page) :
    (system service).StepsMeet (FailureChangesNothing service) (initial firebase) events ∧
        (system service).Always DocumentsAgree (initial firebase) events ↔
      (system service).StepsMeet (fun page event => failsHarmlessly page event)
        (initial firebase) events := by
  have started : Sound (initial firebase) := ⟨nofun, nofun⟩
  refine EventSystem.stepsMeet_and_always_iff started (fun _ sound => sound.agree) ?_ ?_ ran
  · intro page event next sound stepped harmless
    cases event with
    | type form =>
        cases stepped
        exact ⟨sound.of_same rfl rfl rfl, trivial⟩
    | press creation now =>
        obtain ⟨sound', unchanged⟩ :=
          sound.press lawful (pressed_of_step lawful stepped) harmless
        refine ⟨sound', ?_⟩
        cases creation with
        | ok uid => trivial
        | error error =>
            intro next' stepped'
            cases stepped.symm.trans stepped'
            exact unchanged rfl
  · intro page event next sound stepped unchanged _
    cases event with
    | type form => rfl
    | press creation now =>
        cases creation with
        | ok uid => rfl
        | error error =>
            exact (pressed_of_step lawful stepped).harmless lawful (unchanged next stepped)

theorem documents_agree_created :
    ∃ page, (system .inMemory).run (initial .noAccounts)
        [.type ⟨"ann@example.com", "secret", "Ann"⟩, .press (.error .other) 0,
          .press (.ok "a") 10, .type ⟨"bob@example.com", "secret", "Bob"⟩,
          .press (.ok "b") 20] = some page ∧
      (system .inMemory).Always DocumentsAgree (initial .noAccounts)
        [.type ⟨"ann@example.com", "secret", "Ann"⟩, .press (.error .other) 0,
          .press (.ok "a") 10, .type ⟨"bob@example.com", "secret", "Bob"⟩,
          .press (.ok "b") 20] := by
  obtain ⟨page, ran⟩ : ∃ page, (system .inMemory).run (initial .noAccounts)
      [.type ⟨"ann@example.com", "secret", "Ann"⟩, .press (.error .other) 0,
        .press (.ok "a") 10, .type ⟨"bob@example.com", "secret", "Bob"⟩,
        .press (.ok "b") 20] = some page :=
    Option.isSome_iff_exists.mp (by decide +kernel)
  exact ⟨page, ran,
    ((documents_agree FirebaseService.inMemory_laws .noAccounts ran).mpr (by decide +kernel)).2⟩

/-- A second sign-up that fails writes its name over the document of the account
that the first one created. -/
theorem failed_press_overwrites :
    ∃ page, (system .inMemory).run (initial .noAccounts)
        [.type ⟨"ann@example.com", "secret", "Ann"⟩, .press (.ok "a") 10,
          .type ⟨"ann@example.com", "secret", "Bob"⟩,
          .press (.error (.firebaseAuthException "email-already-in-use")) 20] = some page ∧
      page.created = [("a", "Ann")] ∧
      page.store.firebase.user "a" = some { name := "Bob", date := 20 } := by
  have computed : ((system .inMemory).run (initial .noAccounts)
      [.type ⟨"ann@example.com", "secret", "Ann"⟩, .press (.ok "a") 10,
        .type ⟨"ann@example.com", "secret", "Bob"⟩,
        .press (.error (.firebaseAuthException "email-already-in-use")) 20]).map (fun page =>
          (page.created, page.store.firebase.user "a")) =
      some ([("a", "Ann")], some { name := "Bob", date := 20 }) := by
    decide +kernel
  obtain ⟨page, ran, results⟩ := Option.map_eq_some_iff.mp computed
  obtain ⟨created, overwritten⟩ := Prod.mk.inj results
  exact ⟨page, ran, created, overwritten⟩

end NewAccountPage

end FacebookApp

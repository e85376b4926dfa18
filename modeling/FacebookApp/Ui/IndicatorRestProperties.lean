import FacebookApp.Ui.MainPageProperties
import Mathlib.Algebra.Order.BigOperators.Group.List

/-!
# Where the indicator comes to rest

When no loop is pending, the indicator shows what was published last. The value
published last belongs to the current target exactly if no outdated loop gets to
publish the last outstanding value.
-/

set_option autoImplicit false

namespace FacebookApp

open Dart

namespace MainPage

open MainBloc (Live)

abbrev LastValuesFresh (events : List Event) : Prop :=
  system.StepsMeet (fun page event => page.lastValueIsFresh event = true) initial events

theorem live_and_continues_of_run {events : List Event} {page : MainPage}
    (ran : system.run initial events = some page) (notDisposed : .dispose ∉ events) :
    Live page.bloc.store ∧ ∀ frame ∈ page.bloc.pending, frame.continues = true := by
  obtain ⟨moves, moved, admitted⟩ := exists_blocRun ran notDisposed
  have allOnCourse := MainBloc.allOnCourse_of_run moved fun member =>
    (admitted _ member).1 rfl
  exact ⟨allOnCourse.live, fun frame => allOnCourse.continues_of_mem_pending⟩

/-! ## Counting outstanding values -/

theorem outstanding_advance {frame : IndicatorFrame} (continues : frame.continues = true) :
    if frame.advance.continues then
      (frame.index - frame.advance.i).natAbs + 1 = (frame.index - frame.i).natAbs
    else (frame.index - frame.i).natAbs = 0 := by
  rcases frame with ⟨loop, index, i⟩
  cases loop with
  | ascending =>
      simp only [IndicatorFrame.advance_ascending, IndicatorFrame.continues_ascending,
        decide_eq_true_eq] at continues ⊢
      split <;> omega
  | descending =>
      simp only [IndicatorFrame.advance_descending, IndicatorFrame.continues_descending,
        decide_eq_true_eq] at continues ⊢
      split <;> omega

theorem outstandingOf_roundActivation (frame : IndicatorFrame) (state : MainBloc.State) :
    outstandingOf (MainBloc.roundActivation frame state) =
      if frame.continues then (frame.index - frame.i).natAbs else 0 := by
  unfold MainBloc.roundActivation
  split <;> rfl

theorem outstanding_transitioned (page : MainPage) (store : MainBloc) (current index : Int) :
    (page.transitioned store current index).outstanding =
      page.outstanding + ((index - current).natAbs - 1) := by
  have own : outstandingOf (MainBloc.roundActivation (MainBloc.startFrame current index)
      { page.bloc with store := store }) = (index - current).natAbs - 1 := by
    rw [outstandingOf_roundActivation]
    unfold MainBloc.startFrame
    split <;> simp only [IndicatorFrame.continues, decide_eq_true_eq] <;> split <;> omega
  simp [outstanding, transitioned, own]

/-- What one loop still publishes is part of what is outstanding. -/
theorem left_le_outstanding {page : MainPage} {call : Nat} {frame : IndicatorFrame} {due : Nat}
    (found : page.bloc.activations[call]? = some (.suspended frame due)) :
    (frame.index - frame.i).natAbs ≤ page.outstanding :=
  List.le_sum_of_mem (List.mem_map.mpr ⟨_, List.mem_of_getElem? found, rfl⟩)

theorem outstanding_resumed {page : MainPage} {call : Nat} {frame : IndicatorFrame}
    {due : Nat} (found : page.bloc.activations[call]? = some (.suspended frame due))
    (continues : frame.continues = true) :
    (page.resumed call frame).outstanding + (if frame.advance.continues then 1 else 0) =
      page.outstanding := by
  have changed := sum_map_set_add outstandingOf found
    (MainBloc.roundActivation frame.advance page.bloc)
  have step := outstanding_advance continues
  have before : outstandingOf (.suspended frame due) = (frame.index - frame.i).natAbs := rfl
  rw [outstandingOf_roundActivation, IndicatorFrame.advance_index, before] at changed
  simp only [outstanding, resumed]
  cases goesOn : frame.advance.continues <;>
    simp only [goesOn, if_true, Bool.false_eq_true, if_false] at changed step ⊢ <;> omega

/-! ## Runs without outdated last values -/

/-- The page controller follows the target, and so does the indicator as soon as
no value is outstanding. -/
structure Aimed (page : MainPage) : Prop where
  sent : page.bloc.store.target.value? = some page.page
  settled : page.outstanding = 0 →
    page.bloc.store.index.value? = page.bloc.store.target.value?

theorem target_afterRound (frame : IndicatorFrame) (bloc : MainBloc) :
    (bloc.afterRound frame).target = bloc.target := by
  unfold MainBloc.afterRound
  split <;> rfl

theorem index_value?_afterRound (frame : IndicatorFrame) (bloc : MainBloc) :
    (bloc.afterRound frame).index.value? =
      if frame.continues then some frame.i else bloc.index.value? := by
  unfold MainBloc.afterRound
  split <;> simp

theorem Aimed.transitioned {page : MainPage} {store : MainBloc} {current index : Int}
    (announced : Announced index page.bloc.store store)
    (shown : page.bloc.store.index.value? = some current) :
    Aimed (page.transitioned store current index) where
  sent := by
    simp only [MainPage.transitioned, target_afterRound]
    exact announced.target
  settled := by
    intro none
    rw [outstanding_transitioned] at none
    simp only [MainPage.transitioned, target_afterRound, index_value?_afterRound,
      announced.target, announced.sameIndex, shown]
    unfold MainBloc.startFrame
    split <;> simp only [IndicatorFrame.continues, decide_eq_true_eq] <;> split <;>
      simp only [Option.some.injEq] <;> omega

theorem Aimed.resumed {page : MainPage} {call : Nat} {frame : IndicatorFrame} {due : Nat}
    (aimed : Aimed page) (continues : frame.continues = true)
    (found : page.bloc.activations[call]? = some (.suspended frame due))
    (fresh : page.lastValueIsFresh (.resume call) = true) :
    Aimed (page.resumed call frame) where
  sent := by
    simp only [MainPage.resumed, target_afterRound]
    exact aimed.sent
  settled := by
    intro none
    have counted := outstanding_resumed found continues
    rw [none] at counted
    simp only [MainPage.resumed, target_afterRound, index_value?_afterRound]
    cases goesOn : frame.advance.continues with
    | false =>
        simp only [goesOn, Bool.false_eq_true, if_false] at counted ⊢
        exact aimed.settled counted.symm
    | true =>
        -- The value published here is the last one, so the loop is a fresh one.
        simp only [goesOn, if_true, Nat.zero_add] at counted ⊢
        have target : page.bloc.store.target.value? = some frame.index := by
          simpa [lastValueIsFresh, found, goesOn, ← counted] using fresh
        have left := outstanding_advance continues
        simp only [goesOn, if_true] at left
        have own := left_le_outstanding found
        rw [target, Option.some.injEq]
        omega

theorem aimed_of_run {events : List Event} {page : MainPage}
    (ran : system.run initial events = some page) (notDisposed : .dispose ∉ events)
    (fresh : LastValuesFresh events) : Aimed page := by
  revert notDisposed fresh
  refine EventSystem.run_induction (motive := fun events page =>
    .dispose ∉ events → LastValuesFresh events → Aimed page)
    (fun _ _ => ⟨rfl, fun _ => rfl⟩) ?_ ran
  intro events page event next ran ih stepped notDisposed fresh
  simp only [List.mem_append, List.mem_singleton, not_or] at notDisposed
  obtain ⟨freshBefore, freshStep⟩ := (EventSystem.stepsMeet_concat_iff ran).mp fresh
  have aimed := ih notDisposed.1 freshBefore
  obtain ⟨live, continues⟩ := live_and_continues_of_run ran notDisposed.1
  cases pageStep_of_step live (Ne.symm notDisposed.2) stepped with
  | refused => exact aimed
  | transition _ announced shown => exact Aimed.transitioned announced shown
  | @resume call frame due found isDue =>
      exact aimed.resumed (continues frame (Isolate.mem_pending_iff.mpr ⟨call, due, found⟩))
        found freshStep
  | elapse => exact ⟨aimed.sent, aimed.settled⟩

theorem outstanding_eq_zero_of_idle {page : MainPage} (idle : page.bloc.pending = []) :
    page.outstanding = 0 := by
  refine List.sum_eq_zero fun value member => ?_
  obtain ⟨activation, present, rfl⟩ := List.mem_map.mp member
  cases activation with
  | suspended frame due =>
      have pending : frame ∈ page.bloc.pending :=
        List.mem_filterMap.mpr ⟨_, present, rfl⟩
      rw [idle] at pending
      cases pending
  | returned => rfl
  | failed error => rfl

/-! ## Runs with an outdated last value -/

def IsInternal (event : Event) : Prop :=
  (∃ call, event = .resume call) ∨ ∃ milliseconds, event = .elapse milliseconds

theorem IsInternal.ne_dispose {event : Event} (internal : IsInternal event) :
    event ≠ .dispose := by
  rintro rfl
  rcases internal with ⟨call, same⟩ | ⟨milliseconds, same⟩ <;> cases same

/-- What is left of draining a page: nothing but loops whose next resumption ends them. -/
structure Draining (store : MainBloc) (remaining : Nat) (page : MainPage) : Prop where
  live : Live store
  unchanged : page.bloc.store = store
  exhausted : ∀ frame ∈ page.bloc.pending, frame.advance.continues = false
  pending : page.bloc.pending.length = remaining

theorem Draining.exists_resume {store : MainBloc} {remaining : Nat} {page : MainPage}
    (draining : Draining store (remaining + 1) page) :
    ∃ front next, (∀ event ∈ front, IsInternal event) ∧
      system.run page front = some next ∧ Draining store remaining next := by
  obtain ⟨live, rfl, exhausted, pending⟩ := draining
  obtain ⟨frame, member⟩ : ∃ frame, frame ∈ page.bloc.pending :=
    List.exists_mem_of_length_pos (by omega)
  obtain ⟨call, due, found⟩ := Isolate.mem_pending_iff.mp member
  have ends := exhausted frame member
  have returned : MainBloc.roundActivation frame.advance (page.bloc.elapse due) =
      .returned := by
    simp [MainBloc.roundActivation, ends]
  have unchanged : page.bloc.store.afterRound frame.advance = page.bloc.store := by
    simp [MainBloc.afterRound, ends]
  let next : MainPage := { page with
    bloc := { page.bloc.elapse due with
      activations := page.bloc.activations.set call .returned } }
  have stepped : system.run page [.elapse due, .resume call] = some next := by
    refine EventSystem.run_cons_iff.mpr ⟨{ page with bloc := page.bloc.elapse due }, rfl,
      EventSystem.run_cons_iff.mpr ⟨next, ?_, rfl⟩⟩
    refine Option.map_eq_some_iff.mpr ⟨next.bloc, ?_, rfl⟩
    refine (live.resume_eq_some_iff (page.bloc.elapse due)).mpr
      ⟨frame, due, found, Nat.le_add_left due page.bloc.now, ?_⟩
    rw [returned]
    simp only [next, Isolate.elapse, unchanged]
  refine ⟨[.elapse due, .resume call], next, ?_, stepped, live, rfl, ?_, ?_⟩
  · intro event eventMember
    simp only [List.mem_cons, List.not_mem_nil, or_false] at eventMember
    rcases eventMember with rfl | rfl
    · exact .inr ⟨due, rfl⟩
    · exact .inl ⟨call, rfl⟩
  · intro other otherMember
    obtain ⟨activation, present, isFrame⟩ := List.mem_filterMap.mp otherMember
    rcases List.mem_or_eq_of_mem_set present with old | rfl
    · exact exhausted other (List.mem_filterMap.mpr ⟨activation, old, isFrame⟩)
    · cases isFrame
  · have shorter := Isolate.length_pending_set_over found Activation.frame?_returned
    simp only [Isolate.pending, next] at shorter pending ⊢
    omega

theorem exists_drain {page : MainPage} (live : Live page.bloc.store)
    (exhausted : ∀ frame ∈ page.bloc.pending, frame.advance.continues = false) :
    ∃ rest other, (∀ event ∈ rest, IsInternal event) ∧
      system.run page rest = some other ∧ other.bloc.pending = [] ∧
      other.bloc.store = page.bloc.store := by
  have draining : Draining page.bloc.store page.bloc.pending.length page :=
    ⟨live, rfl, exhausted, rfl⟩
  obtain ⟨rest, other, internal, finished, drained⟩ :=
    EventSystem.exists_run_of_progress
      (fun remaining _ page' => Draining page.bloc.store remaining page')
      (fun _ _ _ before => before.exists_resume) [] draining
  exact ⟨rest, other, internal, finished, List.length_eq_zero_iff.mp drained.pending,
    drained.unchanged⟩

/-- An outdated loop that publishes the last outstanding value leaves the
indicator off the target with nothing left to correct it. -/
theorem off_target_of_not_fresh {page next : MainPage} {event : Event}
    (live : Live page.bloc.store)
    (continues : ∀ frame ∈ page.bloc.pending, frame.continues = true)
    (stepped : system.step page event = some next)
    (outdated : ¬ page.lastValueIsFresh event = true) :
    IsInternal event ∧ next.outstanding = 0 ∧
      next.bloc.store.index.value? ≠ next.bloc.store.target.value? := by
  cases event with
  | pageTransition index alarmToWatch data => exact absurd rfl outdated
  | elapse milliseconds => exact absurd rfl outdated
  | dispose => exact absurd rfl outdated
  | resume call =>
      cases pageStep_of_step live (nofun : Event.resume call ≠ .dispose) stepped with
      | @resume _ frame due found isDue =>
          have frameContinues :=
            continues frame (Isolate.mem_pending_iff.mpr ⟨call, due, found⟩)
          simp only [lastValueIsFresh, found, Bool.or_eq_true, Bool.not_eq_true',
            Bool.and_eq_false_iff, beq_eq_false_iff_ne, beq_iff_eq, not_or,
            Bool.not_eq_false, not_not] at outdated
          obtain ⟨⟨goesOn, single⟩, stale⟩ := outdated
          have counted := outstanding_resumed found frameContinues
          have left := outstanding_advance frameContinues
          simp only [goesOn, if_true] at counted left
          have own := left_le_outstanding found
          have last : frame.advance.i = frame.index := by omega
          refine ⟨.inl ⟨call, rfl⟩, by omega, ?_⟩
          simp only [MainPage.resumed, target_afterRound, index_value?_afterRound, goesOn,
            if_true, last]
          exact fun same => stale same.symm

theorem exhausted_of_outstanding_eq_zero {page : MainPage}
    (none : page.outstanding = 0)
    (continues : ∀ frame ∈ page.bloc.pending, frame.continues = true) :
    ∀ frame ∈ page.bloc.pending, frame.advance.continues = false := by
  intro frame member
  obtain ⟨call, due, found⟩ := Isolate.mem_pending_iff.mp member
  have own := left_le_outstanding found
  have left := outstanding_advance (continues frame member)
  cases goesOn : frame.advance.continues with
  | false => rfl
  | true =>
      simp only [goesOn, if_true] at left
      omega

/-- If no outdated loop publishes a last outstanding value, then the indicator
rests on the tab of the page the page view was last sent to whenever no loop is
pending. Otherwise the run passes through a state from which the indicator comes
to rest on another tab without any further tap. -/
theorem indicator_rests_on_target {events : List Event} {page : MainPage}
    (ran : system.run initial events = some page) (notDisposed : .dispose ∉ events) :
    (LastValuesFresh events → page.bloc.pending = [] →
      page.bloc.store.index.value? = page.bloc.store.target.value? ∧
      page.bloc.store.index.value? = some page.page) ∧
    (¬ LastValuesFresh events →
      ∃ front rest other, front <+: events ∧ (∀ event ∈ rest, IsInternal event) ∧
        system.run initial (front ++ rest) = some other ∧ other.bloc.pending = [] ∧
        other.bloc.store.index.value? ≠ other.bloc.store.target.value?) := by
  constructor
  · intro fresh idle
    have aimed := aimed_of_run ran notDisposed fresh
    have settled := aimed.settled (outstanding_eq_zero_of_idle idle)
    exact ⟨settled, settled.trans aimed.sent⟩
  · intro outdated
    obtain ⟨front, event, state, next, isPrefix, reached, stepped, violates⟩ :=
      EventSystem.exists_step_of_not_stepsMeet ran outdated
    have frontUndisposed : .dispose ∉ front := fun member =>
      notDisposed (isPrefix.subset (List.mem_append_left _ member))
    obtain ⟨live, continues⟩ := live_and_continues_of_run reached frontUndisposed
    obtain ⟨internal, none, off⟩ := off_target_of_not_fresh live continues stepped violates
    have reached' : system.run initial (front ++ [event]) = some next :=
      EventSystem.run_concat_iff.mpr ⟨state, reached, stepped⟩
    obtain ⟨live', continues'⟩ := live_and_continues_of_run reached' (by
      simpa [frontUndisposed] using internal.ne_dispose.symm)
    obtain ⟨rest, other, restInternal, finished, idle, sameStore⟩ :=
      exists_drain live' (exhausted_of_outstanding_eq_zero none continues')
    exact ⟨front ++ [event], rest, other, isPrefix, restInternal,
      EventSystem.run_append_iff.mpr ⟨next, reached', finished⟩, idle, sameStore ▸ off⟩

def overlappingTaps : List Event :=
  [.pageTransition 1 false none, .elapse 10, .pageTransition 3 false none, .elapse 50,
    .resume 1, .elapse 50, .resume 0, .resume 1]

theorem indicator_rests_on_target_overlapping :
    ∃ page, system.run initial overlappingTaps = some page ∧
      page.bloc.store.index.value? = page.bloc.store.target.value? ∧
      page.bloc.store.index.value? = some page.page := by
  have reached : (system.run initial overlappingTaps).map (fun page => page.bloc.pending) =
      some [] := by
    decide +kernel
  obtain ⟨page, ran, idle⟩ := Option.map_eq_some_iff.mp reached
  exact ⟨page, ran, (indicator_rests_on_target ran (by decide)).1 (by decide +kernel) idle⟩

/-- A tap on the last tab and, while the indicator is on its way, one on the
first tab: the second loop is over first. -/
def crossedTaps : List Event :=
  [.pageTransition 5 false none, .elapse 10, .pageTransition 0 false none, .elapse 10,
    .resume 0, .elapse 90, .resume 1, .elapse 10, .resume 0, .elapse 100, .resume 0,
    .elapse 100, .resume 0, .elapse 100, .resume 0]

theorem indicator_can_rest_off_target :
    ¬ ∀ events page, system.run initial events = some page → .dispose ∉ events →
      page.bloc.pending = [] →
      page.bloc.store.index.value? = page.bloc.store.target.value? := by
  intro always
  have reached : (system.run initial crossedTaps).map (fun page => (page.bloc.pending,
      page.bloc.store.index.value?, page.bloc.store.target.value?)) =
        some ([], some 5, some 0) := by
    decide +kernel
  obtain ⟨page, ran, observed⟩ := Option.map_eq_some_iff.mp reached
  simp only [Prod.mk.injEq] at observed
  obtain ⟨idle, index, target⟩ := observed
  have same := always crossedTaps page ran (by decide) idle
  rw [index, target] at same
  cases same

end MainPage

end FacebookApp

import FacebookApp.Packages.BottomBarPageTransition
import Mathlib.Algebra.GroupWithZero.Nat

/-!
# Properties of the bottom bar page transition

Only pages that were asked for are ever built, and whatever changes interrupt each other,
the page asked for last is the only one shown once its animation had time to finish.
-/

set_option autoImplicit false

namespace FacebookApp

open Flutter

namespace BottomBarPageTransition

variable {controllers : AnimationControllers} {duration : Nat}
  {transition : BottomBarPageTransition controllers}

/-! ## Phases -/

/-- No animation runs. Before the first frame nothing is displayed yet. -/
structure Resting (transition : BottomBarPageTransition controllers) : Prop where
  displaying : transition.displayingIndex = transition.index ∨ transition.displayingIndex = -1
  animating : transition.animatingIndex = -1
  temp : transition.tempAnimatingIndex = -1
  idle : controllers.status transition.animationController ≠ .forward

/-- The page of the index comes in, for the time measured so far. -/
structure Moving (duration : Nat) (elapsed : Option Nat)
    (transition : BottomBarPageTransition controllers) : Prop where
  displaying : transition.displayingIndex ≠ -1
  animating : transition.animatingIndex = transition.index
  temp : elapsed.isSome → transition.tempAnimatingIndex = transition.index
  running : controllers.status transition.animationController = .forward
  measured : controllers.elapsed transition.animationController = elapsed
  notOver : ∀ measured, elapsed = some measured → measured ≤ duration

section Ticks

variable (laws : controllers.Laws)

include laws

theorem tick_resting (resting : Resting transition) (milliseconds : Nat) :
    transition.tick duration milliseconds = transition := by
  unfold tick
  rw [laws.tick_idle resting.idle]

theorem tick_first (moving : Moving duration none transition) (milliseconds : Nat) :
    Moving duration (some 0) (transition.tick duration milliseconds) ∧
      (transition.tick duration milliseconds).displayingIndex = transition.displayingIndex ∧
      (transition.tick duration milliseconds).index = transition.index := by
  obtain ⟨next, ticks, running, measured⟩ :=
    laws.tick_first moving.running moving.measured duration milliseconds
  have ticked : transition.tick duration milliseconds = { transition with
      tempAnimatingIndex := transition.animatingIndex
      animationController := next } := by
    unfold tick
    rw [ticks]
    simp only [listener, running]
  rw [ticked]
  exact ⟨⟨moving.displaying, moving.animating, fun _ => moving.animating, running, measured,
    by simp⟩, rfl, rfl⟩

theorem tick_later {elapsed : Nat} (moving : Moving duration (some elapsed) transition)
    {milliseconds : Nat} (more : elapsed + milliseconds ≤ duration) :
    Moving duration (some (elapsed + milliseconds)) (transition.tick duration milliseconds) ∧
      (transition.tick duration milliseconds).displayingIndex = transition.displayingIndex ∧
      (transition.tick duration milliseconds).index = transition.index := by
  obtain ⟨next, ticks, status, measured⟩ :=
    laws.tick_later moving.running moving.measured duration milliseconds
  rw [if_neg (Nat.not_lt.mpr more)] at status
  have ticked : transition.tick duration milliseconds = { transition with
      tempAnimatingIndex := transition.animatingIndex
      animationController := next } := by
    unfold tick
    rw [ticks]
    simp only [listener, status]
  rw [ticked]
  exact ⟨⟨moving.displaying, moving.animating, fun _ => moving.animating, status, measured,
    by simpa using more⟩, rfl, rfl⟩

theorem tick_last {elapsed : Nat} (moving : Moving duration (some elapsed) transition)
    {milliseconds : Nat} (late : duration < elapsed + milliseconds) :
    Resting (transition.tick duration milliseconds) ∧
      (transition.tick duration milliseconds).displayingIndex = transition.index ∧
      (transition.tick duration milliseconds).index = transition.index := by
  obtain ⟨next, ticks, status, measured⟩ :=
    laws.tick_later moving.running moving.measured duration milliseconds
  rw [if_pos late] at status
  have ticked : transition.tick duration milliseconds = { transition with
      displayingIndex := transition.animatingIndex
      animatingIndex := -1
      tempAnimatingIndex := -1
      animationController := next } := by
    unfold tick
    rw [ticks]
    simp only [listener, status]
  rw [ticked]
  exact ⟨⟨.inl moving.animating, rfl, rfl, by simp [status]⟩, moving.animating, rfl⟩

end Ticks

theorem display_resting (resting : Resting transition) (isIndex : transition.index ≠ -1) :
    transition.display = { transition with displayingIndex := transition.index } := by
  unfold display
  rcases resting.displaying with same | fresh
  · have displayed : transition.displayingIndex ≠ -1 := same ▸ isIndex
    rw [if_neg displayed]
    obtain ⟨displayingIndex, _, _, index, _, _⟩ := transition
    obtain rfl : displayingIndex = index := same
    rfl
  · rw [if_pos fresh]

theorem display_moving {elapsed : Option Nat} (moving : Moving duration elapsed transition) :
    transition.display = transition :=
  if_neg moving.displaying

theorem mem_pages_buildPages {page : Int} (member : page ∈ transition.buildPages.pages) :
    page = transition.displayingIndex ∨
      transition.animatingIndex ≠ -1 ∧ page = transition.animatingIndex := by
  rcases List.mem_cons.mp member with displayed | comesIn
  · exact .inl displayed
  · split at comesIn
    · rename_i animates
      have comes : transition.animatingIndex ≠ -1 := by
        simpa using (Bool.and_eq_true_iff.mp animates).1
      exact .inr ⟨comes, List.mem_singleton.mp comesIn⟩
    · cases comesIn

@[simp] theorem listener_index (transition : BottomBarPageTransition controllers) :
    transition.listener.index = transition.index := by
  unfold listener
  cases controllers.status transition.animationController <;> dsimp only
  split <;> rfl

@[simp] theorem listener_pages (transition : BottomBarPageTransition controllers) :
    transition.listener.pages = transition.pages := by
  unfold listener
  cases controllers.status transition.animationController <;> dsimp only
  split <;> rfl

@[simp] theorem postFrameCallback_index (duration : Nat) (currentIndex : Int)
    (transition : BottomBarPageTransition controllers) :
    (transition.postFrameCallback duration currentIndex).index = transition.index := by
  unfold postFrameCallback
  split <;> simp

@[simp] theorem postFrameCallback_pages (duration : Nat) (currentIndex : Int)
    (transition : BottomBarPageTransition controllers) :
    (transition.postFrameCallback duration currentIndex).pages = transition.pages := by
  unfold postFrameCallback
  split <;> simp

theorem build_index (duration : Nat) (transition : BottomBarPageTransition controllers)
    (currentIndex : Int) : (transition.build duration currentIndex).index = currentIndex := by
  by_cases changed : transition.index ≠ currentIndex
  · rw [build, if_pos changed, postFrameCallback_index]
    rfl
  · rw [build, if_neg changed]
    unfold display buildPages
    split <;> exact not_not.mp changed

/-- What follows in the frame of a changed index comes too late for its pages. -/
theorem build_pages (duration : Nat) (transition : BottomBarPageTransition controllers)
    (currentIndex : Int) : (transition.build duration currentIndex).pages =
      transition.display.buildPages.pages := by
  by_cases changed : transition.index ≠ currentIndex
  · rw [build, if_pos changed, postFrameCallback_pages]
    rfl
  · rw [build, if_neg changed]

theorem build_resting (duration : Nat) (resting : Resting transition)
    (isIndex : transition.index ≠ -1) :
    Resting (transition.build duration transition.index) ∧
      (transition.build duration transition.index).pages = [transition.index] := by
  have displayed := display_resting resting isIndex
  rw [build, if_neg (not_not.mpr rfl), displayed]
  refine ⟨⟨.inl rfl, resting.animating, resting.temp, resting.idle⟩, ?_⟩
  simp [buildPages, canAnimate, resting.animating]

theorem build_moving {elapsed : Option Nat} (moving : Moving duration elapsed transition) :
    Moving duration elapsed (transition.build duration transition.index) ∧
      (transition.build duration transition.index).displayingIndex =
        transition.displayingIndex := by
  rw [build, if_neg (not_not.mpr rfl), display_moving moving]
  exact ⟨⟨moving.displaying, moving.animating, moving.temp, moving.running, moving.measured,
    moving.notOver⟩, rfl⟩

/-- Before the movement starts, the reset displays the page that was coming in, if any. -/
theorem postFrameCallback_of_pos (laws : controllers.Laws) (positive : 0 < duration)
    (currentIndex : Int) :
    transition.postFrameCallback duration currentIndex = { transition with
      displayingIndex :=
        if transition.tempAnimatingIndex ≠ -1 then transition.tempAnimatingIndex
        else transition.displayingIndex
      animatingIndex := currentIndex
      animationController :=
        controllers.forward duration (controllers.reset transition.animationController) } := by
  unfold postFrameCallback
  simp only [if_neg (Nat.ne_of_gt positive), listener, laws.status_reset]
  split <;> rfl

/-- A changed index starts its own movement from the index before, whether or not that
one has come in yet. -/
theorem build_changed (laws : controllers.Laws) (positive : 0 < duration)
    (phase : Resting transition ∨ ∃ elapsed, Moving duration (some elapsed) transition)
    (isIndex : transition.index ≠ -1) {currentIndex : Int}
    (changed : transition.index ≠ currentIndex) :
    Moving duration none (transition.build duration currentIndex) ∧
      (transition.build duration currentIndex).displayingIndex = transition.index := by
  have called : transition.build duration currentIndex = { transition.display.buildPages with
      displayingIndex := transition.index
      animatingIndex := currentIndex
      index := currentIndex
      animationController :=
        controllers.forward duration (controllers.reset transition.animationController) } := by
    rw [build, if_pos changed, postFrameCallback_of_pos laws positive]
    rcases phase with resting | ⟨elapsed, moving⟩
    · have displayed := display_resting resting isIndex
      simp [displayed, buildPages, canAnimate, resting.temp]
    · simp [display_moving moving, buildPages, canAnimate, moving.temp rfl, isIndex]
  rw [called]
  exact ⟨⟨isIndex, rfl, by simp, laws.status_forward positive _, laws.elapsed_forward _ _,
    by simp⟩, rfl⟩

/-! ## Frames -/

def Phase (duration : Nat) (transition : BottomBarPageTransition controllers) : Prop :=
  Resting transition ∨ ∃ elapsed, Moving duration elapsed transition

theorem tick_phase (laws : controllers.Laws) (phase : Phase duration transition)
    (milliseconds : Nat) :
    (Resting (transition.tick duration milliseconds) ∨
      ∃ elapsed, Moving duration (some elapsed) (transition.tick duration milliseconds)) ∧
    (transition.tick duration milliseconds).index = transition.index ∧
    ((transition.tick duration milliseconds).displayingIndex = transition.displayingIndex ∨
      (transition.tick duration milliseconds).displayingIndex = transition.index) := by
  rcases phase with resting | ⟨_ | elapsed, moving⟩
  · rw [tick_resting laws resting]
    exact ⟨.inl resting, rfl, .inl rfl⟩
  · obtain ⟨ticked, displaying, index⟩ := tick_first laws moving milliseconds
    exact ⟨.inr ⟨0, ticked⟩, index, .inl displaying⟩
  · by_cases more : elapsed + milliseconds ≤ duration
    · obtain ⟨ticked, displaying, index⟩ := tick_later laws moving more
      exact ⟨.inr ⟨_, ticked⟩, index, .inl displaying⟩
    · obtain ⟨ticked, displaying, index⟩ := tick_last laws moving (Nat.lt_of_not_le more)
      exact ⟨.inl ticked, index, .inr displaying⟩

def Requested (requests : List Nat) (page : Int) : Prop :=
  ∃ request ∈ requests, page = request

theorem Requested.more {requests : List Nat} {page : Int} (requested : Requested requests page)
    (request : Nat) : Requested (requests ++ [request]) page := by
  obtain ⟨earlier, member, same⟩ := requested
  exact ⟨earlier, List.mem_append_left _ member, same⟩

theorem requested_last (requests : List Nat) (request : Nat) :
    Requested (requests ++ [request]) request :=
  ⟨request, by simp, rfl⟩

theorem Requested.ne {requests : List Nat} {page : Int} (requested : Requested requests page) :
    page ≠ -1 := by
  obtain ⟨request, _, same⟩ := requested
  omega

/-- All that is shown or under way was asked for. -/
structure Asked (duration : Nat) (requests : List Nat)
    (transition : BottomBarPageTransition controllers) : Prop where
  phase : Phase duration transition
  index : Requested requests transition.index
  displaying : transition.displayingIndex ≠ -1 → Requested requests transition.displayingIndex
  pages : ∀ page ∈ transition.pages, Requested requests page

theorem asked_initial (laws : controllers.Laws) (duration currentIndex : Nat) :
    Asked duration [currentIndex] (initial controllers currentIndex) where
  phase := .inl ⟨.inr rfl, rfl, rfl, by simp [initial, laws.status_initial]⟩
  index := ⟨currentIndex, by simp, rfl⟩
  displaying := fun displayed => absurd rfl displayed
  pages := nofun

theorem requested_of_display {requests : List Nat}
    (phase : Resting transition ∨ ∃ elapsed, Moving duration (some elapsed) transition)
    (index : Requested requests transition.index)
    (displaying : transition.displayingIndex ≠ -1 → Requested requests transition.displayingIndex)
    {page : Int} (member : page ∈ transition.display.buildPages.pages) :
    Requested requests page := by
  rcases phase with resting | ⟨elapsed, moving⟩
  · rw [display_resting resting index.ne] at member
    rcases mem_pages_buildPages member with rfl | ⟨animates, _⟩
    · exact index
    · exact absurd resting.animating animates
  · rw [display_moving moving] at member
    rcases mem_pages_buildPages member with rfl | ⟨_, rfl⟩
    · exact displaying moving.displaying
    · rw [moving.animating]
      exact index

theorem Asked.frame {requests : List Nat} (laws : controllers.Laws) (positive : 0 < duration)
    (asked : Asked duration requests transition) (frame : Frame) :
    Asked duration (requests ++ [frame.currentIndex])
      ((transition.tick duration frame.milliseconds).build duration frame.currentIndex) := by
  obtain ⟨phase, sameIndex, sameDisplaying⟩ := tick_phase laws asked.phase frame.milliseconds
  generalize transition.tick duration frame.milliseconds = ticked at *
  have index : Requested requests ticked.index := sameIndex ▸ asked.index
  have displaying (displayed : ticked.displayingIndex ≠ -1) :
      Requested requests ticked.displayingIndex := by
    rcases sameDisplaying with same | same
    · exact same ▸ asked.displaying (same ▸ displayed)
    · exact same ▸ asked.index
  have isNew : Requested (requests ++ [frame.currentIndex])
      (ticked.build duration frame.currentIndex).index := by
    rw [build_index]
    exact requested_last _ _
  have pages : ∀ page ∈ (ticked.build duration frame.currentIndex).pages,
      Requested (requests ++ [frame.currentIndex]) page := by
    intro page member
    rw [build_pages] at member
    exact (requested_of_display phase index displaying member).more _
  by_cases changed : ticked.index ≠ frame.currentIndex
  · obtain ⟨moving, displayed⟩ := build_changed laws positive phase index.ne changed
    exact ⟨.inr ⟨none, moving⟩, isNew, fun _ => by rw [displayed]; exact index.more _, pages⟩
  · rw [← not_not.mp changed] at isNew pages ⊢
    rcases phase with resting | ⟨elapsed, moving⟩
    · have rests := (build_resting duration resting index.ne).1
      refine ⟨.inl rests, isNew, fun displayed => ?_, pages⟩
      rcases rests.displaying with same | fresh
      · rw [same]
        exact isNew
      · exact absurd fresh displayed
    · obtain ⟨moves, displayed⟩ := build_moving moving
      refine ⟨.inr ⟨_, moves⟩, isNew, fun _ => ?_, pages⟩
      rw [displayed]
      exact (displaying moving.displaying).more _

theorem asked_of_run (laws : controllers.Laws) (positive : 0 < duration) {currentIndex : Nat}
    {frames : List Frame}
    (ran : (system controllers duration).run (initial controllers currentIndex) frames =
      some transition) :
    Asked duration (currentIndex :: frames.map Frame.currentIndex) transition := by
  refine EventSystem.run_induction (motive := fun frames transition =>
    Asked duration (currentIndex :: frames.map Frame.currentIndex) transition)
    (asked_initial laws duration currentIndex) ?_ ran
  rintro frames transition frame next _ asked ⟨⟩
  rw [List.map_append, ← List.cons_append]
  exact asked.frame laws positive frame

/-- Every page that is built in a frame is one that the widget was given in this frame
or an earlier one, and never none at all. -/
theorem pages_were_requested (laws : controllers.Laws) (positive : 0 < duration)
    {currentIndex : Nat} {frames : List Frame}
    (ran : (system controllers duration).run (initial controllers currentIndex) frames =
      some transition)
    {page : Int} (built : page ∈ transition.pages) :
    ∃ request ∈ currentIndex :: frames.map Frame.currentIndex, page = request :=
  (asked_of_run laws positive ran).pages page built

theorem pages_were_requested_interrupted :
    ∃ request ∈ ([0, 1, 2, 2, 2] : List Nat), (1 : Int) = request := by
  let frames : List Frame := [⟨0, 1⟩, ⟨16, 2⟩, ⟨16, 2⟩, ⟨16, 2⟩]
  obtain ⟨transition, ran⟩ : ∃ transition,
      (system AnimationController.controllers 300).run (initial _ 0) frames = some transition :=
    ⟨_, rfl⟩
  have built : (1 : Int) ∈ transition.pages := by
    cases ran
    decide
  exact pages_were_requested AnimationController.controllers_laws (by decide) ran built

/-! ## Rest -/

/-- The transition is at the index or on its way to it, for the time passed at least. -/
structure Heading (duration passed : Nat) (current : Int)
    (transition : BottomBarPageTransition controllers) : Prop where
  index : transition.index = current
  phase : Resting transition ∧ transition.pages = [current] ∨
    ∃ measured, Moving duration (some measured) transition ∧ passed ≤ measured

/-- A ticked transition that the frame's build finds at its index. -/
theorem Heading.of_ticked {passed : Nat} {current : Int}
    (phase : Resting transition ∨
      ∃ measured, Moving duration (some measured) transition ∧ passed ≤ measured)
    (index : transition.index = current) (isIndex : current ≠ -1) :
    Heading duration passed current (transition.build duration current) := by
  subst index
  refine ⟨build_index duration transition _, ?_⟩
  rcases phase with resting | ⟨measured, moving, least⟩
  · exact .inl (build_resting duration resting isIndex)
  · exact .inr ⟨measured, (build_moving moving).1, least⟩

theorem heading_of_phase (laws : controllers.Laws) {current : Int}
    (phase : Phase duration transition)
    (index : transition.index = current) (isIndex : current ≠ -1) (milliseconds : Nat) :
    Heading duration 0 current
      ((transition.tick duration milliseconds).build duration current) := by
  obtain ⟨ticked, sameIndex, _⟩ := tick_phase laws phase milliseconds
  refine .of_ticked ?_ (sameIndex.trans index) isIndex
  exact ticked.imp id fun ⟨measured, moving⟩ => ⟨measured, moving, Nat.zero_le _⟩

theorem Heading.frame (laws : controllers.Laws) {passed : Nat} {current : Int}
    (heading : Heading duration passed current transition) (isIndex : current ≠ -1)
    (milliseconds : Nat) :
    Heading duration (passed + milliseconds) current
      ((transition.tick duration milliseconds).build duration current) := by
  rcases heading.phase with ⟨resting, _⟩ | ⟨measured, moving, least⟩
  · rw [tick_resting laws resting]
    exact .of_ticked (.inl resting) heading.index isIndex
  · by_cases more : measured + milliseconds ≤ duration
    · obtain ⟨ticked, _, index⟩ := tick_later laws moving more
      have least' : passed + milliseconds ≤ measured + milliseconds := by omega
      exact .of_ticked (.inr ⟨_, ticked, least'⟩) (index.trans heading.index) isIndex
    · obtain ⟨ticked, _, index⟩ := tick_last laws moving (Nat.lt_of_not_le more)
      exact .of_ticked (.inl ticked) (index.trans heading.index) isIndex

theorem Heading.run (laws : controllers.Laws) {current : Nat} {frames : List Frame} {passed : Nat}
    {finish : BottomBarPageTransition controllers}
    (heading : Heading duration passed current transition)
    (ran : (system controllers duration).run transition frames = some finish)
    (same : ∀ frame ∈ frames, frame.currentIndex = current) :
    Heading duration (passed + (frames.map Frame.milliseconds).sum) current finish := by
  induction frames generalizing passed transition with
  | nil =>
      obtain rfl : transition = finish := by simpa [EventSystem.run] using ran
      simpa using heading
  | cons frame frames ih =>
      obtain ⟨next, ⟨⟩, ranRest⟩ := EventSystem.run_cons_iff.mp ran
      have isCurrent : frame.currentIndex = current := same frame List.mem_cons_self
      have stepped : Heading duration (passed + frame.milliseconds) current
          ((transition.tick duration frame.milliseconds).build duration frame.currentIndex) := by
        rw [isCurrent]
        exact heading.frame laws (by omega) frame.milliseconds
      have later := ih stepped ranRest
        fun later member => same later (List.mem_cons_of_mem _ member)
      rwa [List.map_cons, List.sum_cons, ← Nat.add_assoc]

/-- Whatever changes interrupted each other before: when the index stays the same for two
frames and for longer than the duration after them, its page is the only one left. -/
theorem rests_at_last_request (laws : controllers.Laws) (positive : 0 < duration)
    {currentIndex current : Nat} {earlier rest : List Frame} {first second : Frame}
    (ran : (system controllers duration).run (initial controllers currentIndex)
      (earlier ++ first :: second :: rest) = some transition)
    (same : ∀ frame ∈ first :: second :: rest, frame.currentIndex = current)
    (enough : duration < (rest.map Frame.milliseconds).sum) :
    transition.pages = [(current : Int)] := by
  obtain ⟨before, ranEarlier, ranLast⟩ := EventSystem.run_append_iff.mp ran
  obtain ⟨afterFirst, steppedFirst, ranLast⟩ := EventSystem.run_cons_iff.mp ranLast
  obtain ⟨afterSecond, ⟨⟩, ranRest⟩ := EventSystem.run_cons_iff.mp ranLast
  have isCurrent : second.currentIndex = current := same second (by simp)
  have asked : Asked duration _ afterFirst :=
    asked_of_run laws positive (EventSystem.run_concat_iff.mpr ⟨before, ranEarlier, steppedFirst⟩)
  have index : afterFirst.index = current := by
    obtain ⟨⟩ := steppedFirst
    rw [build_index, same first (by simp)]
  have heading : Heading duration 0 current
      ((afterFirst.tick duration second.milliseconds).build duration second.currentIndex) := by
    rw [isCurrent]
    exact heading_of_phase laws asked.phase index (by omega) second.milliseconds
  have headed := heading.run laws ranRest fun frame member => same frame (by simp [member])
  rcases headed.phase with ⟨_, pages⟩ | ⟨measured, moving, least⟩
  · exact pages
  · have notOver := moving.notOver measured rfl
    omega

/-- The third tab is pressed while the second one still comes in. -/
theorem rests_at_last_request_interrupted :
    ∃ transition, (system AnimationController.controllers 300).run (initial _ 0)
        [⟨0, 1⟩, ⟨16, 1⟩, ⟨16, 2⟩, ⟨16, 2⟩, ⟨200, 2⟩, ⟨200, 2⟩] = some transition ∧
      transition.pages = [2] := by
  obtain ⟨transition, ran⟩ : ∃ transition,
      (system AnimationController.controllers 300).run (initial _ 0)
      [⟨0, 1⟩, ⟨16, 1⟩, ⟨16, 2⟩, ⟨16, 2⟩, ⟨200, 2⟩, ⟨200, 2⟩] = some transition := ⟨_, rfl⟩
  have same : ∀ frame ∈ ([⟨16, 2⟩, ⟨16, 2⟩, ⟨200, 2⟩, ⟨200, 2⟩] : List Frame),
      frame.currentIndex = 2 := by decide
  have earlier : [⟨0, 1⟩, ⟨16, 1⟩, ⟨16, 2⟩, ⟨16, 2⟩, ⟨200, 2⟩, ⟨200, 2⟩] =
      ([⟨0, 1⟩, ⟨16, 1⟩] : List Frame) ++ [⟨16, 2⟩, ⟨16, 2⟩, ⟨200, 2⟩, ⟨200, 2⟩] := rfl
  rw [earlier] at ran
  exact ⟨transition, ran, rests_at_last_request AnimationController.controllers_laws (by decide)
    ran same (by decide)⟩

end BottomBarPageTransition

end FacebookApp

import FacebookApp.Ui.MenuSections
import FacebookApp.Ui.MenuShortCutProperties
import Mathlib.Data.List.TakeWhile

/-!
# Properties of the sections of the menu page

A container that is left alone for 300 milliseconds of frames is open or closed by the
presses before. A callback that scrolls to a menu, 300 milliseconds after the press,
finds the container as far as the frames since have brought it.
-/

set_option autoImplicit false

namespace FacebookApp

open Dart Flutter

namespace MenuSections

open MenuPage (tracked_of_run)

variable {snapshots : Snapshots} {motion : Motion} {hiddenMenuHeight : HiddenMenu → ℚ}
  {events : List MenuPage.Event} {event : MenuPage.Event} {sections next : MenuSections}
  {menu : HiddenMenu}

/-! ## The time of the frames -/

theorem fromFrame_eq_nil (unbuilt : .build ∉ events) : fromFrame events = [] := by
  rw [fromFrame, List.dropWhile_eq_nil_iff]
  intro event member
  exact bne_iff_ne.mpr fun isBuild => unbuilt (isBuild ▸ member)

theorem fromFrame_concat_of_mem (built : .build ∈ events) (event : MenuPage.Event) :
    fromFrame (events ++ [event]) = fromFrame events ++ [event] := by
  have remains : fromFrame events ≠ [] := by
    intro none
    have all := List.dropWhile_eq_nil_iff.mp none _ built
    simp at all
  rw [fromFrame, List.dropWhile_append, if_neg]
  · rfl
  · simpa [fromFrame] using remains

theorem framed_eq_zero (unbuilt : .build ∉ events) : framed events = 0 := by
  rw [framed, fromFrame_eq_nil unbuilt]
  rfl

theorem framed_concat_of_ne (notFrame : event ≠ .build) :
    framed (events ++ [event]) = framed events := by
  by_cases built : .build ∈ events
  · rw [framed, framed, fromFrame_concat_of_mem built, List.reverse_append]
    simp [notFrame]
  · have unbuilt : .build ∉ events ++ [event] := by
      simp [built, Ne.symm notFrame]
    rw [framed_eq_zero unbuilt, framed_eq_zero built]

theorem elapsed_reverse (events : List MenuPage.Event) :
    elapsed events.reverse = elapsed events := by
  rw [elapsed, List.map_reverse, List.sum_reverse, elapsed]

theorem elapsed_concat (events : List MenuPage.Event) (event : MenuPage.Event) :
    elapsed (events ++ [event]) = elapsed events + event.elapsed := by
  simp [elapsed]

/-- Another frame brings the movements up to the time since the first one. -/
theorem framed_concat_build (built : .build ∈ events) :
    framed (events ++ [.build]) = elapsed (fromFrame events) := by
  have kept : (fromFrame events ++ [MenuPage.Event.build]).reverse.dropWhile (· != .build) =
      (fromFrame events ++ [MenuPage.Event.build]).reverse := by
    rw [List.reverse_append]
    rfl
  rw [framed, fromFrame_concat_of_mem built, kept, elapsed_reverse, elapsed_concat]
  rfl

theorem fromFrame_concat_first (unbuilt : .build ∉ events) :
    fromFrame (events ++ [.build]) = [.build] := by
  have none := fromFrame_eq_nil unbuilt
  rw [fromFrame] at none
  rw [fromFrame, List.dropWhile_append, none]
  rfl

theorem framed_concat_first (unbuilt : .build ∉ events) : framed (events ++ [.build]) = 0 := by
  rw [framed, fromFrame_concat_first unbuilt]
  rfl

/-- A run of frames that begins and ends with one. -/
theorem framed_between (events : List MenuPage.Event) :
    framed (MenuPage.Event.build :: events ++ [.build]) = elapsed events := by
  have begun : MenuPage.Event.build ∈ MenuPage.Event.build :: events := List.mem_cons_self
  rw [framed_concat_build begun]
  exact Nat.zero_add _

/-! ## Builders -/

/-- The height that a container has or is on its way to once a frame shows its menu. -/
def height (hiddenMenuHeight : HiddenMenu → ℚ) (page : MenuPage) (menu : HiddenMenu) : ℚ :=
  if (page.isolate.store.buttons menu).isShowing then hiddenMenuHeight menu else 0

/-- The container that a frame builds. -/
def drawn (motion : Motion) (target : ℚ) : Option Animated → Animated
  | none => .settled target
  | some container => container.retarget motion target 300

theorem target_drawn (motion : Motion) (target : ℚ) (container : Option Animated) :
    (drawn motion target container).target = target := by
  cases container with
  | none => rfl
  | some container => exact Animated.target_retarget _ _ _ _

structure Rendered (events : List MenuPage.Event) (sections : MenuSections) : Prop where
  ran : MenuPage.system.run MenuPage.initial events = some sections.page
  turns : ∀ menu, sections.page.turns? menu =
    some (if (sections.page.isolate.store.buttons menu).isShowing then 1 / 2 else 0)
  short : ∀ menu container, sections.containers menu = some container → container.duration ≤ 300

theorem containerHeight_turns (hiddenMenuHeight : HiddenMenu → ℚ) (page : MenuPage)
    (menu : HiddenMenu) :
    containerHeight (hiddenMenuHeight menu)
        (if (page.isolate.store.buttons menu).isShowing then 1 / 2 else 0) =
      height hiddenMenuHeight page menu := by
  cases showing : (page.isolate.store.buttons menu).isShowing <;>
    simp [containerHeight, height, showing]

theorem containers_frame (laws : snapshots.Laws) {page : MenuPage} {menu : HiddenMenu}
    (turns : page.turns? menu =
      some (if (page.isolate.store.buttons menu).isShowing then 1 / 2 else 0))
    (sections : MenuSections) :
    (sections.frame snapshots motion hiddenMenuHeight page).containers menu =
      some (drawn motion (height hiddenMenuHeight page menu)
        ((sections.containers menu).map (·.elapse sections.sinceFrame))) := by
  rw [MenuPage.turns?] at turns
  simp only [frame, laws.later]
  rw [turns, ← containerHeight_turns]
  cases sections.containers menu <;> rfl

theorem rendered_initial (laws : snapshots.Laws) :
    Rendered [] (initial snapshots motion hiddenMenuHeight) where
  ran := rfl
  turns := fun _ => rfl
  short := by
    intro menu container mounted
    rcases laws.first (MenuPage.initial.isolate.store.buttons menu).turnsSubject with
      without | present
    · simp only [initial, without, buildContainer] at mounted
      cases mounted
    · have seeded : (MenuPage.initial.isolate.store.buttons menu).turnsSubject.value? =
          some 0 := rfl
      simp only [initial, present, seeded, buildContainer, Option.some.injEq] at mounted
      subst mounted
      exact Nat.zero_le _

theorem Rendered.step (laws : snapshots.Laws) (rendered : Rendered events sections)
    (stepped : (system snapshots motion hiddenMenuHeight).step sections event = some next) :
    Rendered (events ++ [event]) next := by
  obtain ⟨page, steppedPage, rfl⟩ := Option.map_eq_some_iff.mp stepped
  have ready := (tracked_of_run rendered.ran).ready
  have turned := (MenuPage.turned_of_step ready steppedPage).turns
  have isShowing := (MenuPage.menuStep_of_step ready steppedPage).isShowing
  have paged : Rendered (events ++ [event])
      { sections with page, sinceFrame := sections.sinceFrame + event.elapsed } := by
    refine ⟨EventSystem.run_concat_iff.mpr ⟨_, rendered.ran, steppedPage⟩, ?_, rendered.short⟩
    intro menu
    simp only [turned menu, isShowing menu, rendered.turns menu]
    split
    · cases (sections.page.isolate.store.buttons menu).isShowing <;> rfl
    · rfl
  by_cases isFrame : event = .build
  · rw [if_pos isFrame]
    refine ⟨paged.ran, paged.turns, fun menu container mounted => ?_⟩
    rw [containers_frame laws (paged.turns menu), Option.some.injEq] at mounted
    subst mounted
    cases before : sections.containers menu with
    | none => exact Nat.zero_le _
    | some earlier =>
        simp only [drawn, Option.map_some, Animated.retarget]
        split
        · exact rendered.short menu earlier before
        · exact Nat.le_refl _
  · rw [if_neg isFrame]
    exact paged

theorem rendered_of_run (laws : snapshots.Laws)
    (ran : (system snapshots motion hiddenMenuHeight).run
      (initial snapshots motion hiddenMenuHeight) events = some sections) :
    Rendered events sections :=
  EventSystem.run_induction (motive := Rendered) (rendered_initial laws)
    (fun _ _ _ _ _ rendered stepped => rendered.step laws stepped) ran

/-! ## A menu that is left alone -/

/-- As long as its menu is not pressed, a container stays as it is up to the first frame,
which starts its last movement; later frames bring that up to their time. -/
structure LeftAlone (motion : Motion) (hiddenMenuHeight : HiddenMenu → ℚ) (menu : HiddenMenu)
    (start : MenuSections) (events : List MenuPage.Event) (sections : MenuSections) : Prop where
  isShowing : (sections.page.isolate.store.buttons menu).isShowing =
    (start.page.isolate.store.buttons menu).isShowing
  unframed : .build ∉ events → sections.containers menu = start.containers menu
  framed : .build ∈ events → ∃ wait, sections.containers menu =
    some ((drawn motion (height hiddenMenuHeight start.page menu)
      ((start.containers menu).map (·.elapse wait))).elapse (MenuSections.framed events))
  sinceFrame : .build ∈ events →
    MenuSections.framed events + sections.sinceFrame = elapsed (fromFrame events)

theorem LeftAlone.step {before : List MenuPage.Event} {start : MenuSections}
    (laws : snapshots.Laws) (rendered : Rendered before sections)
    (alone : LeftAlone motion hiddenMenuHeight menu start events sections)
    (untouched : event ≠ .press menu)
    (stepped : (system snapshots motion hiddenMenuHeight).step sections event = some next) :
    LeftAlone motion hiddenMenuHeight menu start (events ++ [event]) next := by
  have rendered' := rendered.step laws stepped
  obtain ⟨page, steppedPage, rfl⟩ := Option.map_eq_some_iff.mp stepped
  have menuStep := MenuPage.menuStep_of_step (tracked_of_run rendered.ran).ready steppedPage
  have isShowing : (page.isolate.store.buttons menu).isShowing =
      (start.page.isolate.store.buttons menu).isShowing := by
    rw [menuStep.isShowing menu, if_neg untouched, alone.isShowing]
  by_cases isFrame : event = .build
  · subst isFrame
    simp only [if_true] at rendered' ⊢
    have target : height hiddenMenuHeight page menu = height hiddenMenuHeight start.page menu := by
      rw [height, height, isShowing]
    have turns : page.turns? menu = _ := rendered'.turns menu
    have built : (sections.frame snapshots motion hiddenMenuHeight page).containers menu = _ :=
      containers_frame laws turns sections
    refine ⟨isShowing, fun unbuilt => absurd (List.mem_append_right _ List.mem_cons_self) unbuilt,
      fun _ => ?_, fun _ => ?_⟩
    · by_cases earlier : .build ∈ events
      · obtain ⟨wait, mounted⟩ := alone.framed earlier
        refine ⟨wait, built.trans ?_⟩
        -- The target is the one of the first frame, so the movement goes on.
        rw [framed_concat_build earlier, ← alone.sinceFrame earlier, mounted, target,
          Option.map_some, drawn, Animated.retarget, if_pos (by simp [target_drawn])]
        simp [Animated.elapse, Nat.add_assoc]
      · refine ⟨sections.sinceFrame, built.trans ?_⟩
        rw [alone.unframed earlier, target, framed_concat_first earlier]
        rfl
    · by_cases earlier : .build ∈ events
      · rw [framed_concat_build earlier, fromFrame_concat_of_mem earlier, elapsed_concat]
        rfl
      · rw [framed_concat_first earlier, fromFrame_concat_first earlier]
        rfl
  · simp only [if_neg isFrame]
    have mem_iff : .build ∈ events ++ [event] ↔ .build ∈ events := by
      simp [Ne.symm isFrame]
    refine ⟨isShowing, fun unbuilt => alone.unframed (mt mem_iff.mpr unbuilt), fun built => ?_,
      fun built => ?_⟩
    · rw [framed_concat_of_ne isFrame]
      exact alone.framed (mem_iff.mp built)
    · have earlier := mem_iff.mp built
      rw [framed_concat_of_ne isFrame, fromFrame_concat_of_mem earlier, elapsed_concat,
        ← alone.sinceFrame earlier]
      exact (Nat.add_assoc _ _ _).symm

theorem leftAlone_of_run {before : List MenuPage.Event} {start : MenuSections}
    (laws : snapshots.Laws)
    (reached : (system snapshots motion hiddenMenuHeight).run
      (initial snapshots motion hiddenMenuHeight) before = some start)
    (ran : (system snapshots motion hiddenMenuHeight).run start events = some sections)
    (untouched : .press menu ∉ events) :
    LeftAlone motion hiddenMenuHeight menu start events sections := by
  revert untouched
  refine EventSystem.run_induction (motive := fun events sections => .press menu ∉ events →
    LeftAlone motion hiddenMenuHeight menu start events sections)
    (fun _ => ⟨rfl, fun _ => rfl, nofun, nofun⟩) ?_ ran
  intro events sections event next ran' ih stepped untouched
  simp only [List.mem_append, List.mem_singleton, not_or] at untouched
  have rendered := rendered_of_run laws (EventSystem.run_append_iff.mpr ⟨start, reached, ran'⟩)
  exact (ih untouched.1).step laws rendered (Ne.symm untouched.2) stepped

/-- When a menu is not pressed for 300 milliseconds of frames, its container has come to
rest, open exactly if the presses before were odd in number, and so is the flag of the
menu. -/
theorem section_rests_at_parity (snapshotLaws : snapshots.Laws) (motionLaws : motion.Laws)
    {before after : List MenuPage.Event} {menu : HiddenMenu} {sections : MenuSections}
    (ran : (system snapshots motion hiddenMenuHeight).run
      (initial snapshots motion hiddenMenuHeight) (before ++ (.build :: after ++ [.build])) =
        some sections)
    (untouched : .press menu ∉ after) (enough : 300 ≤ elapsed after) :
    sections.page.isShowing? menu = some (decide (Odd (before.count (.press menu)))) ∧
      ∃ container, sections.containers menu = some container ∧ container.hasEnded = true ∧
        container.value motion =
          if Odd (before.count (.press menu)) then hiddenMenuHeight menu else 0 := by
  obtain ⟨start, reached, ranOn⟩ := EventSystem.run_append_iff.mp ran
  have alone : LeftAlone motion hiddenMenuHeight menu _ _ _ :=
    leftAlone_of_run snapshotLaws reached ranOn (by simp [untouched])
  obtain ⟨wait, mounted⟩ := alone.framed (List.mem_append_left _ List.mem_cons_self)
  rw [framed_between] at mounted
  have tracked := tracked_of_run (rendered_of_run snapshotLaws reached).ran
  have parity := tracked.parity menu
  let first := drawn motion (height hiddenMenuHeight start.page menu)
    ((start.containers menu).map (·.elapse wait))
  have short : (first.elapse (elapsed after)).duration ≤ 300 :=
    (rendered_of_run snapshotLaws ran).short menu _ mounted
  have ended : (first.elapse (elapsed after)).hasEnded = true :=
    decide_eq_true (short.trans (enough.trans (Nat.le_add_left _ first.elapsed)))
  have ready := (tracked_of_run (rendered_of_run snapshotLaws ran).ran).ready
  refine ⟨by rw [ready.showing, alone.isShowing, parity], _, mounted, ended, ?_⟩
  rw [Animated.value_of_hasEnded motionLaws ended, Animated.target_elapse, target_drawn, height,
    parity]
  simp only [decide_eq_true_eq]

/-- Two presses in quick succession, and a press of the other menu meanwhile. -/
theorem section_rests_at_parity_help :
    ∃ sections, (system .delivered .linear fun _ => 330).run
        (initial .delivered .linear fun _ => 330) [.build, .press .help, .elapse 16, .build,
          .elapse 84, .press .help, .elapse 16, .build, .elapse 200, .press .communityResource,
          .elapse 100, .build] = some sections ∧
      ∃ container, sections.containers .help = some container ∧ container.value .linear = 0 := by
  obtain ⟨sections, ran⟩ : ∃ sections, (system .delivered .linear fun _ => 330).run
      (initial .delivered .linear fun _ => 330) ([.build, .press .help, .elapse 16, .build,
        .elapse 84, .press .help, .elapse 16] ++ (.build :: [.elapse 200,
        .press .communityResource, .elapse 100] ++ [.build])) = some sections :=
    Option.isSome_iff_exists.mp (by decide +kernel)
  have untouched : MenuPage.Event.press .help ∉
      [.elapse 200, .press .communityResource, .elapse 100] := by decide
  obtain ⟨_, container, mounted, _, value⟩ := section_rests_at_parity
    Snapshots.delivered_laws Motion.linear_laws ran untouched (by decide)
  exact ⟨sections, ran, container, mounted, value.trans (if_neg (by decide))⟩

/-! ## Callbacks and containers -/

theorem page_of_run {start : MenuSections}
    (ran : (system snapshots motion hiddenMenuHeight).run start events = some sections) :
    MenuPage.system.run start.page events = some sections.page := by
  refine EventSystem.run_induction (motive := fun events sections =>
    MenuPage.system.run start.page events = some sections.page) rfl ?_ ran
  intro events sections event next _ reached stepped
  obtain ⟨page, steppedPage, rfl⟩ := Option.map_eq_some_iff.mp stepped
  refine EventSystem.run_concat_iff.mpr ⟨sections.page, reached, ?_⟩
  split <;> exact steppedPage

end MenuSections

end FacebookApp

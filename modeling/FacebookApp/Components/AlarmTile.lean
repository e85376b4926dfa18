import FacebookApp.Library.DateTime
import FacebookApp.Library.Number
import FacebookApp.Library.Program
import FacebookApp.Models.AlarmData

/-!
# Alarm tile

The sentence of a tile, who posted what, and its age label. The label counts hours up to
a day, then days, then weeks, each rounded from the hours on its own.
-/

set_option autoImplicit false

namespace FacebookApp

open Dart

namespace AlarmData

/-- The code that a tile and its sheet both have of their own. -/
def whatPosted (alarmData : AlarmData) : Except (Error Empty) String :=
  match alarmData.postType with
  | .image =>
      match alarmData.images with
      | some images => .ok ("새로운 사진 " ++ toString images.length ++ " 개를 게시했습니다: ")
      | none => .error .nullCheckError
  | .video => .ok "새로운 동영상을 게시했습니다: "
  | .onlyText => .ok "새로운 게시물을 작성했습니다: "

def message (alarmData : AlarmData) : String :=
  match alarmData.userType with
  | .individualPerson => "님이 "
  | .groupPerson => "에서 "
  | .individualPage => "님이 "
  | .groupPage => "에서 "

def sentence (message : String) (whatPosted : Except (Error Empty) String)
    (alarmData : AlarmData) : Except (Error Empty) (List String) := do
  return [alarmData.user, message, ← whatPosted, "'" ++ alarmData.content ++ "'."]

/-- A post of images comes with a list of them. -/
def HasImages (alarmData : AlarmData) : Prop :=
  alarmData.postType = .image → alarmData.images ≠ none

instance (alarmData : AlarmData) : Decidable alarmData.HasImages :=
  inferInstanceAs (Decidable (alarmData.postType = .image → alarmData.images ≠ none))

end AlarmData

namespace AlarmTile

def writeWhatPosted (alarmData : AlarmData) : Except (Error Empty) String := alarmData.whatPosted

def writeMessage (alarmData : AlarmData) : String := alarmData.message

/-- The spans of the rich text. -/
def text (alarmData : AlarmData) : Except (Error Empty) (List String) :=
  alarmData.sentence (writeMessage alarmData) (writeWhatPosted alarmData)

end AlarmTile

inductive AgeUnit where
  | hour
  | day
  | week
  deriving DecidableEq, Repr

structure AgeLabel where
  number : Int
  unit : AgeUnit
  deriving DecidableEq, Repr

namespace AgeUnit

def text : AgeUnit → String
  | .hour => "시간"
  | .day => "일"
  | .week => "주"

def hours : AgeUnit → Int
  | .hour => 1
  | .day => 24
  | .week => 168

end AgeUnit

namespace AgeLabel

def text (label : AgeLabel) : String := toString label.number ++ label.unit.text

/-- The hours that a label stands for. -/
def value (label : AgeLabel) : Int := label.number * label.unit.hours

end AgeLabel

namespace AlarmTile

/-- The branches of `_calculateDuration`. The divisors are constants, so no
quotient is infinite and `round` does not throw. -/
def ageLabel (diff : Int) : AgeLabel :=
  if diff > 24 then
    if Double.roundHalfAway (diff / 24) > 7 then
      { number := Double.roundHalfAway (diff / 24 / 7), unit := .week }
    else
      { number := Double.roundHalfAway (diff / 24), unit := .day }
  else
    { number := diff, unit := .hour }

def hoursSince (now : DateTime) (alarmData : AlarmData) : Int :=
  let postedDate := DateTime.fromMillisecondsSinceEpoch alarmData.timeStamp
  (now.difference postedDate).inHours

def calculateDuration (now : DateTime) (alarmData : AlarmData) : String :=
  (ageLabel (hoursSince now alarmData)).text

/-! ## Labels -/

theorem ageLabel_cases (diff : Int) :
    diff ≤ 24 ∧ ageLabel diff = ⟨diff, .hour⟩ ∨
    24 < diff ∧ Double.roundHalfAway (diff / 24) ≤ 7 ∧
      ageLabel diff = ⟨Double.roundHalfAway (diff / 24), .day⟩ ∨
    24 < diff ∧ 7 < Double.roundHalfAway (diff / 24) ∧
      ageLabel diff = ⟨Double.roundHalfAway (diff / 168), .week⟩ := by
  have weeks : (diff / 24 / 7 : ℚ) = diff / 168 := by
    rw [div_div]
    norm_num
  by_cases old : diff > 24
  · by_cases older : Double.roundHalfAway (diff / 24) > 7
    · exact .inr (.inr ⟨old, older, by simp only [ageLabel, if_pos old, if_pos older, weeks]⟩)
    · exact .inr (.inl ⟨old, Int.not_lt.mp older, by
        simp only [ageLabel, if_pos old, if_neg older]⟩)
  · exact .inl ⟨Int.not_lt.mp old, by simp only [ageLabel, if_neg old]⟩

theorem one_le_days {diff : Int} (old : 24 < diff) : 1 ≤ Double.roundHalfAway (diff / 24) := by
  have atLeast : (25 : ℚ) ≤ diff := by exact_mod_cast old
  apply Double.le_roundHalfAway
  push_cast
  linarith

/-- More than seven rounded days are more than seven days. -/
theorem one_le_weeks {diff : Int} (older : 7 < Double.roundHalfAway (diff / 24)) :
    1 ≤ Double.roundHalfAway (diff / 168) := by
  have near := abs_le.mp (Double.abs_roundHalfAway_sub_le (diff / 24))
  have atLeast : (8 : ℚ) ≤ Double.roundHalfAway (diff / 24) := by exact_mod_cast older
  apply Double.le_roundHalfAway
  push_cast
  linarith

theorem days_mono {earlier later : Int} (le : earlier ≤ later) :
    Double.roundHalfAway (earlier / 24) ≤ Double.roundHalfAway (later / 24) := by
  have le' : (earlier : ℚ) ≤ later := by exact_mod_cast le
  apply Double.roundHalfAway_mono
  linarith

theorem weeks_mono {earlier later : Int} (le : earlier ≤ later) :
    Double.roundHalfAway (earlier / 168) ≤ Double.roundHalfAway (later / 168) := by
  have le' : (earlier : ℚ) ≤ later := by exact_mod_cast le
  apply Double.roundHalfAway_mono
  linarith

theorem value_mono {earlier later : Int} (le : earlier ≤ later) :
    (ageLabel earlier).value ≤ (ageLabel later).value := by
  have days := days_mono le
  have weeks := weeks_mono le
  rcases ageLabel_cases earlier with ⟨young, label⟩ | ⟨old, few, label⟩ | ⟨old, many, label⟩ <;>
    rcases ageLabel_cases later with
      ⟨young', label'⟩ | ⟨old', few', label'⟩ | ⟨old', many', label'⟩ <;>
    simp only [label, label', AgeLabel.value, AgeUnit.hours]
  · omega
  · have oneDay := one_le_days old'
    omega
  · have oneWeek := one_le_weeks many'
    omega
  · omega
  · omega
  · have oneWeek := one_le_weeks many'
    omega
  · omega
  · omega
  · omega

theorem value_near (diff : Int) :
    match (ageLabel diff).unit with
    | .hour => (ageLabel diff).value = diff
    | .day => |(ageLabel diff).value - diff| ≤ 12
    | .week => |(ageLabel diff).value - diff| ≤ 84 := by
  rcases ageLabel_cases diff with ⟨_, label⟩ | ⟨_, _, label⟩ | ⟨_, _, label⟩ <;>
    simp only [label, AgeLabel.value, AgeUnit.hours]
  · exact Int.mul_one diff
  · have near := Double.abs_mul_roundHalfAway_div_sub_le diff (show (0 : ℤ) < 24 by decide)
    push_cast at near
    rw [Int.mul_comm]
    omega
  · have near := Double.abs_mul_roundHalfAway_div_sub_le diff (show (0 : ℤ) < 168 by decide)
    push_cast at near
    rw [Int.mul_comm]
    omega

theorem number_in_range (diff : Int) :
    ((ageLabel diff).unit = .day → 1 ≤ (ageLabel diff).number ∧ (ageLabel diff).number ≤ 7) ∧
    ((ageLabel diff).unit = .week → 1 ≤ (ageLabel diff).number) := by
  rcases ageLabel_cases diff with ⟨_, label⟩ | ⟨old, few, label⟩ | ⟨_, many, label⟩ <;>
    simp only [label]
  · exact ⟨nofun, nofun⟩
  · exact ⟨fun _ => ⟨one_le_days old, few⟩, nofun⟩
  · exact ⟨nofun, fun _ => one_le_weeks many⟩

/-- Age labels never order two alarms against their ages, miss the age by half
their unit at most, and are counted in days from one to seven and in weeks from
one. The tile shows the number of the label and the word for its unit. -/
theorem age_label_is_faithful :
    (∀ earlier later : Int, earlier ≤ later →
      (ageLabel earlier).value ≤ (ageLabel later).value) ∧
    (∀ (now : DateTime) (older newer : AlarmData), older.timeStamp ≤ newer.timeStamp →
      (ageLabel (hoursSince now newer)).value ≤ (ageLabel (hoursSince now older)).value) ∧
    (∀ diff, match (ageLabel diff).unit with
      | .hour => (ageLabel diff).value = diff
      | .day => |(ageLabel diff).value - diff| ≤ 12
      | .week => |(ageLabel diff).value - diff| ≤ 84) ∧
    (∀ diff,
      ((ageLabel diff).unit = .day →
        1 ≤ (ageLabel diff).number ∧ (ageLabel diff).number ≤ 7) ∧
      ((ageLabel diff).unit = .week → 1 ≤ (ageLabel diff).number)) ∧
    ∀ (now : DateTime) (alarmData : AlarmData), calculateDuration now alarmData =
      toString (ageLabel (hoursSince now alarmData)).number ++
        match (ageLabel (hoursSince now alarmData)).unit with
        | .hour => "시간"
        | .day => "일"
        | .week => "주" := by
  refine ⟨fun _ _ => value_mono, ?_, value_near, number_in_range, ?_⟩
  · intro now older newer le
    exact value_mono (DateTime.inHours_difference_antitone now le)
  · intro now alarmData
    rw [calculateDuration, AgeLabel.text]
    cases (ageLabel (hoursSince now alarmData)).unit <;> rfl

-- The entries a process starts with, a day and an hour after the newest of them.
example : initialAlarms.map (calculateDuration
    ⟨1663725600 * 1000 * 1000 + 25 * Duration.microsecondsPerHour⟩) =
      ["1일", "2주", "3주", "3주", "3주", "3주"] := by
  decide +kernel

end AlarmTile

end FacebookApp

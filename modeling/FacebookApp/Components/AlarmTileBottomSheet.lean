import FacebookApp.Components.AlarmTile

/-!
# The sheet of an alarm tile

The sheet that the menu of a tile opens. It says who posted what in the words of the
tile.
-/

set_option autoImplicit false

namespace FacebookApp

open Dart

namespace AlarmTileBottomSheet

def writeWhatPosted (alarmData : AlarmData) : Except (Error Empty) String := alarmData.whatPosted

def writeMessage (alarmData : AlarmData) : String := alarmData.message

/-- The spans of the rich text. -/
def text (alarmData : AlarmData) : Except (Error Empty) (List String) :=
  alarmData.sentence (writeMessage alarmData) (writeWhatPosted alarmData)

end AlarmTileBottomSheet

end FacebookApp

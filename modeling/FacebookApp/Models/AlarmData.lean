import Mathlib.Tactic.Common

/-!
# Alarm data

The entries of the alarm list and the list every process starts with.
-/

set_option autoImplicit false

namespace FacebookApp

inductive UserType where
  | individualPerson
  | groupPerson
  | individualPage
  | groupPage
  deriving DecidableEq, Repr

inductive PostType where
  | video
  | image
  | onlyText
  deriving DecidableEq, Repr

structure AlarmData where
  user : String
  userType : UserType
  uid : String
  postType : PostType
  content : String
  video : Option String := none
  images : Option (List String) := none
  timeStamp : Int
  isRead : Bool
  deriving DecidableEq, Repr

def initialAlarms : List AlarmData := [
  { user := "NVIDIA GeForce Korea"
    userType := .groupPage
    uid := "eidlsfkdf"
    postType := .video
    content := "Portal RTX"
    video := some "131313"
    timeStamp := 1663725600 * 1000
    isRead := false },
  { user := "Hardwell"
    userType := .groupPerson
    uid := "asdfqwer"
    postType := .video
    content := "Can't wait to be back in NYC again next week. Grab your tickets .."
    video := some "121212"
    timeStamp := 1662897600 * 1000
    isRead := false },
  { user := "NVIDIA GeForce Korea"
    userType := .groupPage
    uid := "eidlsfkdf"
    postType := .video
    content := "<더 위쳐3> - 게임 플레이"
    video := some "131314"
    timeStamp := 1662120000 * 1000
    isRead := false },
  { user := "NVIDIA GeForce Korea"
    userType := .groupPage
    uid := "eidlsfkdf"
    postType := .video
    content := "GeForce Garage - Hydropower PC"
    video := some "131315"
    timeStamp := 1661994000 * 1000
    isRead := false },
  { user := "NVIDIA GeForce Korea"
    userType := .groupPage
    uid := "eidlsfkdf"
    postType := .video
    content := "GeForce Garage - Hydropower PC"
    video := some "131315"
    timeStamp := 1661994000 * 1000
    isRead := false },
  { user := "NVIDIA GeForce Korea"
    userType := .groupPage
    uid := "eidlsfkdf"
    postType := .video
    content := "GeForce Garage - Hydropower PC"
    video := some "131315"
    timeStamp := 1661994000 * 1000
    isRead := false }]

end FacebookApp

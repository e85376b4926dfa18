/-!
# Main data

The tabs of the bottom navigation bar.
-/

set_option autoImplicit false

namespace FacebookApp

structure NavigationData where
  activeImage : String
  inActiveImage : String
  label : String
  deriving DecidableEq, Repr

def navigationData : List NavigationData := [
  { activeImage := "assets/bottomNavigationBar/home_active.png"
    inActiveImage := "assets/bottomNavigationBar/home_inactive.png"
    label := "홈" },
  { activeImage := "assets/bottomNavigationBar/watch_active.png"
    inActiveImage := "assets/bottomNavigationBar/watch_inactive.png"
    label := "Watch" },
  { activeImage := "assets/bottomNavigationBar/profile_active.png"
    inActiveImage := "assets/bottomNavigationBar/profile_inactive.png"
    label := "프로필" },
  { activeImage := "assets/bottomNavigationBar/peed_temp_active.png"
    inActiveImage := "assets/bottomNavigationBar/peed_temp_inactive.png"
    label := "피드" },
  { activeImage := "assets/bottomNavigationBar/alarm_active.png"
    inActiveImage := "assets/bottomNavigationBar/alarm_inactive.png"
    label := "알림" },
  { activeImage := "assets/bottomNavigationBar/menu_active.png"
    inActiveImage := "assets/bottomNavigationBar/menu_inactive.png"
    label := "메뉴" }]

end FacebookApp

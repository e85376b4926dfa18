import FacebookApp.Bloc.AlarmBloc
import FacebookApp.Bloc.AlarmBlocProperties
import FacebookApp.Bloc.IndicatorCourseProperties
import FacebookApp.Bloc.LoginBloc
import FacebookApp.Bloc.LoginBlocProperties
import FacebookApp.Bloc.MainBloc
import FacebookApp.Bloc.MainBlocProperties
import FacebookApp.Bloc.MenuBloc
import FacebookApp.Components.AlarmTile
import FacebookApp.Components.AlarmTileBottomSheet
import FacebookApp.Components.CustomSliverAppBar
import FacebookApp.Components.HiddenMenuButton
import FacebookApp.Library.AnimationController
import FacebookApp.Library.DateTime
import FacebookApp.Library.EventSystem
import FacebookApp.Library.Heap
import FacebookApp.Library.ImplicitAnimation
import FacebookApp.Library.Instances
import FacebookApp.Library.Isolate
import FacebookApp.Library.Navigator
import FacebookApp.Library.Number
import FacebookApp.Library.Program
import FacebookApp.Library.StreamBuilder
import FacebookApp.Models.AlarmData
import FacebookApp.Models.Firebase
import FacebookApp.Models.MainData
import FacebookApp.Packages.BottomBarPageTransition
import FacebookApp.Packages.BottomBarPageTransitionProperties
import FacebookApp.Ui.AlarmAccountProperties
import FacebookApp.Ui.AlarmDisposalProperties
import FacebookApp.Ui.AlarmEndProperties
import FacebookApp.Ui.AlarmPage
import FacebookApp.Ui.AlarmPageProperties
import FacebookApp.Ui.AlarmReachProperties
import FacebookApp.Ui.AlarmSessions
import FacebookApp.Ui.AlarmSessionsProperties
import FacebookApp.Ui.AlarmTilesProperties
import FacebookApp.Ui.AuthGateProperties
import FacebookApp.Ui.IndicatorBar
import FacebookApp.Ui.IndicatorBarProperties
import FacebookApp.Ui.IndicatorDisposalProperties
import FacebookApp.Ui.IndicatorPacingProperties
import FacebookApp.Ui.IndicatorRestProperties
import FacebookApp.Ui.IndicatorSweepProperties
import FacebookApp.Ui.LoadingPage
import FacebookApp.Ui.LoadingPageProperties
import FacebookApp.Ui.LoadingRoutesProperties
import FacebookApp.Ui.LoginFailureProperties
import FacebookApp.Ui.LoginFormProperties
import FacebookApp.Ui.LoginIndicatorProperties
import FacebookApp.Ui.LoginPage
import FacebookApp.Ui.LoginPageProperties
import FacebookApp.Ui.LoginView
import FacebookApp.Ui.LoginViewProperties
import FacebookApp.Ui.MainPage
import FacebookApp.Ui.MainPageProperties
import FacebookApp.Ui.MainScreen
import FacebookApp.Ui.MainScreenProperties
import FacebookApp.Ui.MenuPage
import FacebookApp.Ui.MenuPageProperties
import FacebookApp.Ui.MenuScrollProperties
import FacebookApp.Ui.MenuSections
import FacebookApp.Ui.MenuSectionsProperties
import FacebookApp.Ui.MenuShortCutProperties
import FacebookApp.Ui.NewAccountPage
import FacebookApp.Ui.NewAccountPageProperties
import FacebookApp.Ui.ProfilePage
import FacebookApp.Ui.ProfilePageProperties
import FacebookApp.Ui.SignUpDocumentsProperties
import FacebookApp.Ui.SignUpRequests
import FacebookApp.Ui.SignUpRequestsProperties

import VendorRs.Lib.Runs
import VendorRs.Lib.Tokens
import VendorRs.Lib.Looper
import VendorRs.Lib.Pool
import VendorRs.Lib.Fields
import VendorRs.Lib.Make
import VendorRs.Lib.Shell
import VendorRs.Lib.Template
import VendorRs.Lib.Paths
import VendorRs.Lib.FileTree
import VendorRs.Java.Lang
import VendorRs.LedLightManager.Rules
import VendorRs.LedLightManager.Light
import VendorRs.LedLightManager.Service
import VendorRs.LedLightManager.Spec
import VendorRs.LedLightManager.Tracking
import VendorRs.LedLightManager.Session
import VendorRs.LedLightManager.Lifecycle
import VendorRs.LedLightManager.Config
import VendorRs.LedLightManager.Posting
import VendorRs.LedLightManager.Removing
import VendorRs.LightDaemon.Main
import VendorRs.LightDaemon.Wire
import VendorRs.LightDaemon.Protocol
import VendorRs.LightDaemon.EndToEnd
import VendorRs.CallManager.Basic
import VendorRs.CallManager.Spec
import VendorRs.CallManager.Registration
import VendorRs.CallManager.TwoSims
import VendorRs.CallManager.Recorder
import VendorRs.CallManager.Vibration
import VendorRs.Backlight.Basic
import VendorRs.Backlight.Forced
import VendorRs.Backlight.Timeout
import VendorRs.Backlight.Balance
import VendorRs.MainService.PowerOffAlarm
import VendorRs.MainService.Preferences
import VendorRs.MainService.Reconfiguration
import VendorRs.MainService.NumberDialogs
import VendorRs.OtaUpdate.Basic
import VendorRs.OtaUpdate.Staging
import VendorRs.OtaUpdate.AllOrNothing
import VendorRs.Ims.Managers
import VendorRs.Ims.Switch
import VendorRs.Ims.Manager
import VendorRs.Ims.Registration
import VendorRs.Utils
import VendorRs.IconBlacklist
import VendorRs.Boot.Permissions
import VendorRs.Boot.Receiver
import VendorRs.Boot.Nodes
import VendorRs.Boot.Services
import VendorRs.Boot.Grants
import VendorRs.Bluetooth.Basic
import VendorRs.Bluetooth.Visibility
import VendorRs.Bluetooth.Level
import VendorRs.Boot.StatusBar
import VendorRs.ConnectivityManager.Basic
import VendorRs.ConnectivityManager.Modem
import VendorRs.ConnectivityManager.FollowsWifi
import VendorRs.GamingMode.Basic
import VendorRs.GamingMode.HeadsUp
import VendorRs.GamingMode.Brightness
import VendorRs.MainService.NavBar
import VendorRs.PocketMode.Basic
import VendorRs.PocketMode.ScreenOn
import VendorRs.TriStateKeyDaemon.UeventListener
import VendorRs.TriStateKeyDaemon.Main
import VendorRs.RilWrapper
import VendorRs.DoubleTap
import VendorRs.Sbox.Basic
import VendorRs.Sbox.Moving
import VendorRs.Sbox.Sandbox
import VendorRs.Sbox.Publishing
import VendorRs.Sbox.CleanUp
import VendorRs.Sbox.Main
import VendorRs.Generator.Basic
import VendorRs.Generator.Tools
import VendorRs.Generator.Command
import VendorRs.Generator.Step
import VendorRs.Generator.Builds
import VendorRs.Build.Utils
import VendorRs.Build.Platforms
import VendorRs.Build.PathMap

import OverCrow.Base.Run
import OverCrow.Base.Machine
import OverCrow.Protocol.State
import OverCrow.Config.Lifecycle
import OverCrow.Config.Widgets
import OverCrow.Core.Authority
import OverCrow.Core.BrokerSessions
import OverCrow.Core.Coordinator
import OverCrow.Core.X11Session
import OverCrow.Overlay.Commands
import OverCrow.Overlay.Latest
import OverCrow.Overlay.SnapshotSync
import OverCrow.Discord.Isolation
import OverCrow.Discord.SocketLoop
import OverCrow.Gnome.Intents
import OverCrow.Gnome.Shortcuts
import OverCrow.KWin.Reports
import OverCrow.Warframe.MarketRefresh
import OverCrow.Hyprland.Bridge
import OverCrow.Hyprland.Focus
import OverCrow.Hyprland.Geometry
import OverCrow.Hyprland.Ownership
import OverCrow.Hyprland.Reconcile
import OverCrow.Notes.Progress
import OverCrow.Notes.Reporting
import OverCrow.Notes.Unreadable
import OverCrow.Notes.Restore
import OverCrow.Integration.Accelerators
import OverCrow.Control.Agreement
import OverCrow.Control.UpdateSafety
import OverCrow.Control.DownloadSafety
import OverCrow.Integration.SaveErrors
import OverCrow.Control.BoundedCommand
import OverCrow.Warframe.Actions
import OverCrow.Twitch.AuthSafety
import OverCrow.Twitch.Dedup
import OverCrow.Twitch.Target
import OverCrow.Core.Reload
import OverCrow.Warframe.Cycles
import OverCrow.Warframe.ResourceFilter
import OverCrow.Core.X11Auth
import OverCrow.Control.Diagnostics
import OverCrow.Logging.Recent

import LinSight.Library.KeyMap
import LinSight.Library.Run
import LinSight.Library.Ieee
import LinSight.Core.Types
import LinSight.Core.Hardware
import LinSight.Plugin.Manifest
import LinSight.Daemon.Scheduler
import LinSight.Daemon.Refcounts
import LinSight.Daemon.Ledger
import LinSight.Protocol.Messages
import LinSight.Daemon.Balance
import LinSight.Daemon.Sessions
import LinSight.Daemon.Backoff
import LinSight.Daemon.StaticDelivery
import LinSight.Daemon.SetNickname
import LinSight.Daemon.NicknamePersistence
import LinSight.Protocol.Frame
import LinSight.Alerts.Engine
import LinSight.Alerts.StateMachine
import LinSight.Alerts.Handle
import LinSight.Alerts.EditedLog
import LinSight.Alerts.PendingJobs
import LinSight.Alerts.Expr
import LinSight.Alerts.Context
import LinSight.Alerts.Rewriting
import LinSight.Alerts.Retention
import LinSight.Alerts.ValueRuns
import LinSight.Alerts.References
import LinSight.Alerts.TestExpr
import LinSight.Daemon.PartialResults
import LinSight.Daemon.SamplingTimeouts
import LinSight.Hardware.Labels
import LinSight.Library.Fallible
import LinSight.Plugin.Mirror
import LinSight.Plugin.Host
import LinSight.Daemon.Inventory
import LinSight.Daemon.Catalogues
import LinSight.Alerts.Durations
import LinSight.Alerts.DurationRoundTrip
import LinSight.Alerts.Config
import LinSight.Alerts.SaveConfig
import LinSight.Daemon.History
import LinSight.Library.Locks
import LinSight.Daemon.ThreadPrograms
import LinSight.Library.Varint
import LinSight.Protocol.FrameWriter
import LinSight.Daemon.Requests
import LinSight.Alerts.Overlong
import LinSight.Daemon.AnsweredRuns
import LinSight.Core.Time
import LinSight.Daemon.Pruning
import LinSight.Gui.ProcessStream
import LinSight.Gui.Rpc
import LinSight.Gui.Coalescing
import LinSight.Gui.Reconnect
import LinSight.Library.Journal
import LinSight.Plugin.Lifecycle
import LinSight.Gui.DaemonSide
import LinSight.Protocol.FrameStream
import LinSight.Gui.Slugs
import LinSight.Gui.Dashboards
import LinSight.Gui.SlugRoom
import LinSight.Gui.Layouts
import LinSight.Daemon.HalfDead
import LinSight.Daemon.WholeFrames
import LinSight.Gui.Joining
import LinSight.Daemon.Shutdown
import LinSight.Alerts.Webhook
import LinSight.Daemon.Prom
import LinSight.Daemon.Downsampling
import LinSight.Daemon.HistoryWriter
import LinSight.Daemon.GrantedPeriods
import LinSight.Daemon.SchedulerCalls
import LinSight.Daemon.DueTimes
import LinSight.Daemon.Cadence
import LinSight.Library.Words
import LinSight.Sensors.ProcStat
import LinSight.Library.Channel
import LinSight.Tunnel.Relay
import LinSight.Tunnel.Faithful
import LinSight.Tunnel.Timed
import LinSight.Tunnel.IdleTimeout
import LinSight.Sensors.CpuUtil
import LinSight.Alerts.ShellSplit
import LinSight.Daemon.PromRequests
import LinSight.Daemon.BadDurations
import LinSight.Protocol.ResponseReader
import LinSight.Gui.Forwarding
import LinSight.Gui.FailedReconnects
import LinSight.Gui.AliveFlag
import LinSight.Gui.Rates
import LinSight.Gui.MeasuredRates
import LinSight.Sensors.Fdinfo
import LinSight.Sensors.XeUtil
import LinSight.Library.ListSchedule
import LinSight.Alerts.EvalPool
import LinSight.Alerts.FastRules
import LinSight.Gui.AlertEdits
import LinSight.Gui.AlertRequests
import LinSight.Gui.DaemonSettings
import LinSight.Gui.RpcWorker
import LinSight.Library.Gregorian
import LinSight.Cli.Calendar
import LinSight.Plugin.MirrorReadings
import LinSight.Plugin.PciIds
import LinSight.Sensors.Cgroups
import LinSight.Sensors.CpuDeltas
import LinSight.Sensors.FsMounts
import LinSight.Sensors.FsKeys
import LinSight.Sensors.Hwmon
import LinSight.Sensors.SensorNames
import LinSight.Library.SharedSnapshots
import LinSight.Sensors.CpuPlugin
import LinSight.Sensors.SharedReads
import LinSight.Sensors.FsSnapshots
import LinSight.Sensors.FsBackoff
import LinSight.Library.Utf8
import LinSight.Sensors.NetIfaces
import LinSight.Sensors.ProcList
import LinSight.Library.Csv
import LinSight.Library.FloatReading
import LinSight.Library.Json
import LinSight.Cli.HistoryOutput
import LinSight.Cli.DbExport
import LinSight.Cli.Exports
import LinSight.Daemon.Streams
import LinSight.Cli.Watch
import LinSight.Library.GuardedCalls
import LinSight.Sensors.Nvml
import LinSight.Sensors.Smart
import LinSight.Library.Admission
import LinSight.Daemon.AcceptLoop
import LinSight.Daemon.PromSlots
import LinSight.Tunnel.Connections
import LinSight.Tunnel.Allowlist
import LinSight.Library.LastRequest
import LinSight.Gui.Pages
import LinSight.Gui.HostSwitch
import LinSight.Gui.SavedHosts
import LinSight.Gui.TilePages
import LinSight.Gui.Canvas
import LinSight.Gui.Preferences
import LinSight.Cli.WatchedDaemon

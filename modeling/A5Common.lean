import A5Common.Timer.HandleLifetime
import A5Common.Nmea.LatLong
import A5Common.Nmea.MagneticTrack
import A5Common.Engine.UsedInFix
import A5Common.Engine.UserAgent
import A5Common.Engine.SerialNumber
import A5Common.Engine.Certificates
import A5Common.Engine.DataAvailability
import A5Common.Engine.Configuration
import A5Common.Agps.Framework
import A5Common.Agps.DataCall
import A5Common.Agps.Subscription
import A5Common.Agps.Fallback
import A5Common.Agps.BusySession
import A5Common.Agps.ClosedHandle
import A5Common.Agps.Receiver
import A5Common.Agps.EngineRestart
import A5Common.Agps.ReleaseAtl
import A5Common.Agps.Conversation
import A5Common.Timer.Early
import A5Common.Timer.Wakeup
import A5Common.Timer.Disarm
import A5Common.Timer.RankOrder
import A5Common.Timer.Lifetime
import A5Common.Timer.PriorityQueue
import A5Common.Timer.Balance
import A5Common.Ni.Consent
import A5Common.Ni.Payload
import A5Common.Ni.Answerable
import A5Common.Engine.AidingData
import A5Common.Cfg.Update
import A5Common.Cfg.Read
import A5Common.Cfg.OverTheAir
import A5Common.Cfg.Comment
import A5Common.Cfg.UpdateCount
import A5Common.Server.BeforeInit
import A5Common.Server.Replay
import A5Common.Engine.Restart
import A5Common.Engine.Mute
import A5Common.Daemon.Receive
import A5Common.Daemon.RoundTrip
import A5Common.Daemon.Server
import A5Common.Daemon.Flush
import A5Common.Core.Registered
import A5Common.Core.Registration
import A5Common.Core.LocDualContext
import A5Common.Utils.MsgTask
import A5Common.Utils.TrimSpace
import A5Common.Utils.SplitString
import A5Common.Camera.Ids
import A5Common.InputDisabler.Doze
import A5Common.Amplifier.Power
import A5Common.Amplifier.Clock
import A5Common.Sensors.Wrapper
import A5Common.Nmea.Gsa
import A5Common.Nmea.Framing
import A5Common.Cfg.Written
import A5Common.Run.SortedMap
import A5Common.Run.Critical
import A5Common.Run.Delimited
import A5Common.Cfg.Strtol
import A5Common.Camera.CameraParameters
import A5Common.Camera.Sizes
import A5Common.Run.Effect
import A5Common.Camera.GetParams
import A5Common.Camera.SetParams
import A5Common.Daemon.Thelper
import A5Common.Run.Progress
import A5Common.Daemon.ThreadProcs
import A5Common.Timer.OnDemand
import A5Common.Engine.UserAgentFile
import A5Common.Engine.XtraServers

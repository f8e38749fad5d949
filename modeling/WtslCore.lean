import WtslCore.Lib.Run
import WtslCore.Lib.CStr
import WtslCore.Lib.FirstMatch
import WtslCore.Lib.Decimal
import WtslCore.Lib.Strtol
import WtslCore.Lib.Strptime
import WtslCore.Lib.Faults
import WtslCore.Lib.Copy
import WtslCore.Lib.Slots
import WtslCore.Lib.Chain
import WtslCore.Lib.Shell
import WtslCore.Lib.Ledger
import WtslCore.Lib.Recent
import WtslCore.Json
import WtslCore.User.Context
import WtslCore.User.Db
import WtslCore.User.Manager
import WtslCore.Node.List
import WtslCore.Node.MacLookup
import WtslCore.Node.Manager
import WtslCore.Node.Service
import WtslCore.Node.Registry
import WtslCore.Node.Dispatch
import WtslCore.Http.RestfulApi
import WtslCore.Http.Routing
import WtslCore.Http.Server
import WtslCore.Http.Authorization
import WtslCore.Http.ContextCopy
import WtslCore.Dataparser.Ota
import WtslCore.Dataparser.FirmwareHeader
import WtslCore.Slb.McsBounds
import WtslCore.Slb.Command
import WtslCore.Slb.AclCore
import WtslCore.Slb.AclForm
import WtslCore.Slb.QosCore
import WtslCore.Slb.Injection
import WtslCore.Slb.Kernel
import WtslCore.Slb.QosSwitch
import WtslCore.Slb.CmdLength
import WtslCore.Slb.TcDelete
import WtslCore.Sle.OtaSender
import WtslCore.Lib.Fgets
import WtslCore.Lib.Lines
import WtslCore.Lib.Noted
import WtslCore.Lib.Trim
import WtslCore.Utils.CfgManager
import WtslCore.Utils.CfgRoundTrip
import WtslCore.Utils.CfgFrame
import WtslCore.Utils.CfgStore
import WtslCore.Utils.List
import WtslCore.Http.BodyBuffer
import WtslCore.User.Reports
import WtslCore.Sle.Bridge
import WtslCore.Sle.TransConfig
import WtslCore.Sle.ScanTable
import WtslCore.Sle.OtaReassembly
import WtslCore.Utils.LogFrame
import WtslCore.Utils.FrameChecksum
import WtslCore.Utils.LogUpload
import WtslCore.Node.ListHeap
import WtslCore.Utils.CfgFailure
import WtslCore.Utils.CfgReads
import WtslCore.Node.Params
import WtslCore.Node.BridgeLoad
import WtslCore.Dataparser.Setters
import WtslCore.Node.Switches
import WtslCore.Node.Radio
import WtslCore.Node.Bandwidths
import WtslCore.Node.Restart
import WtslCore.Node.FieldAccess
import WtslCore.Node.TimeSync
import WtslCore.Node.Destinations
import WtslCore.Node.Responses
import WtslCore.Node.Calls
import WtslCore.User.Answers
import WtslCore.Node.Operations
import WtslCore.Node.Queries
import WtslCore.Node.Outcomes
import WtslCore.Http.ResponseBuffer
import WtslCore.Node.Removal
import WtslCore.Http.Resources
import WtslCore.Slb.AclSwitch
import WtslCore.Slb.AclRecord
import WtslCore.Http.PostCalls
import WtslCore.Node.Datagram
import WtslCore.Node.Framing
import WtslCore.User.Table
import WtslCore.Utils.CfgShape
import WtslCore.Node.ViewUsers
import WtslCore.Node.AutoJoin
import WtslCore.Node.UserRows
import WtslCore.Http.GetAnswers
import WtslCore.Http.ApiStatus
import WtslCore.Splink.McNodes
import WtslCore.Splink.McService
import WtslCore.Dataparser.FirmwareVerify
import WtslCore.Lib.Block
import WtslCore.Lib.JsonText
import WtslCore.Dataparser.OutputCapture
import WtslCore.Dataparser.Upgrade
import WtslCore.Utils.LogLine
import WtslCore.Sle.OtaPackages
import WtslCore.Sle.FanOut
import WtslCore.Slb.DriverTables
import WtslCore.Http.UpgradeAnswers
import WtslCore.Lib.Framed
import WtslCore.Lib.Volumes
import WtslCore.Lib.Monitor
import WtslCore.Lib.Rotation
import WtslCore.Lib.ShellWords
import WtslCore.Lib.Scanf
import WtslCore.Lib.Threads
import WtslCore.Utils.LogTransfer
import WtslCore.Utils.LogConfig
import WtslCore.Utils.LogRotation
import WtslCore.Utils.CfgRuns
import WtslCore.Node.Image
import WtslCore.Node.Network
import WtslCore.Node.JoinLoop
import WtslCore.Node.Traces
import WtslCore.Slb.DriverCommands
import WtslCore.Sle.TransServers

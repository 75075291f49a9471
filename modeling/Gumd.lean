import Gumd.Lib.StateWp
import Gumd.Lib.Reports
import Gumd.Lib.EntryLoop
import Gumd.Lib.Runs
import Gumd.Lib.Lines
import Gumd.Lib.Pairs
import Gumd.Lib.Binding
import Gumd.StringUtils
import Gumd.UserTypes
import Gumd.Validate
import Gumd.Config
import Gumd.Crypt
import Gumd.Database
import Gumd.File
import Gumd.Operation
import Gumd.DaemonGroup
import Gumd.DaemonUser
import Gumd.EntryRules
import Gumd.FileRules
import Gumd.GroupRules
import Gumd.GroupOutcomes
import Gumd.MemberOutcomes
import Gumd.UserRules
import Gumd.UserOutcomes
import Gumd.UserDeletion
import Gumd.UserUpdate
import Gumd.Searches
import Gumd.GecosRules
import Gumd.Frames
import Gumd.System
import Gumd.FileSteps
import Gumd.Accounts
import Gumd.Simulation
import Gumd.Locking
import Gumd.Atomicity
import Gumd.Membership
import Gumd.Secrets
import Gumd.GroupUpdate
import Gumd.UserMerge
import Gumd.Daemon
import Gumd.Identity
import Gumd.UserCache
import Gumd.Signals
import Gumd.UserService
import Gumd.ServiceAnswers
import Gumd.LineFormat
import Gumd.ReadBack
import Gumd.UserEdits
import Gumd.UpdateFailures
import Gumd.ShownEdits
import Gumd.Pairing
import Gumd.MemberLists
import Gumd.PwdfLock
import Gumd.LockBalance
import Gumd.ErrorContract
import Gumd.StrayErrors
import Gumd.ConfigFile
import Gumd.Sysroot
import Gumd.Disposable
import Gumd.KeepAlive
import Gumd.UserAdapter
import Gumd.Mirror
import Gumd.IdAllocation
import Gumd.FileUpdate
import Gumd.EntryOrder
import Gumd.Realname
import Gumd.GroupEnds
import Gumd.GroupFailures
import Gumd.GroupSecrets
import Gumd.MemberRemoval
import Gumd.Lookups
import Gumd.MemberEnds
import Gumd.MemberRoundTrip
import Gumd.UserList
import Gumd.EntryPattern
import Gumd.PackedStrings
import Gumd.StringVectors
import Gumd.SaltRoundTrip
import Gumd.NumericConfig
import Gumd.UmaskSetting
import Gumd.HomeDirDeletion
import Gumd.HomeDirCopy
import Gumd.HomeDirCreation
import Gumd.UserRoundTrip
import Gumd.Printing
import Gumd.LineScope
import Gumd.ClientOperation
import Gumd.Services
import Gumd.Server
import Gumd.ServerDatabase
import Gumd.Lib.TextFile
import Gumd.Texts
import Gumd.DisposableLife
import Gumd.ServerLoop
import Gumd.ServerLife
import Gumd.ObjectFrames
import Gumd.OfflineMode
import Gumd.ServerP2P
import Gumd.Lib.Calls
import Gumd.Lib.Volume
import Gumd.AtomicRewrite
import Gumd.Concurrency

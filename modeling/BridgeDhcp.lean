import BridgeDhcp.StepRun
import BridgeDhcp.GoMapRange
import BridgeDhcp.GoTime
import BridgeDhcp.GoError
import BridgeDhcp.NetipAddress
import BridgeDhcp.GoBytes
import BridgeDhcp.PositionalText
import BridgeDhcp.GoBigInt
import BridgeDhcp.GoText
import BridgeDhcp.HexText
import BridgeDhcp.OctetOptions
import BridgeDhcp.FirstBest
import BridgeDhcp.InternetChecksum
import BridgeDhcp.ClassicBpf
import BridgeDhcp.InteractionProgram
import BridgeDhcp.InteractionHistory
import BridgeDhcp.InteractionRefinement
import BridgeDhcp.TickRefresh
import BridgeDhcp.StampedCache
import BridgeDhcp.Netlink.Kernel
import BridgeDhcp.Netlink.Lookup
import BridgeDhcp.Packet.Ingress
import BridgeDhcp.Packet.Dhcp6Message
import BridgeDhcp.Packet.Craft
import BridgeDhcp.Packet.Parse
import BridgeDhcp.Packet.ParseSafety
import BridgeDhcp.Server.LeaseTable
import BridgeDhcp.Server.OffsetAddress
import BridgeDhcp.Server.LeaseExpiry
import BridgeDhcp.Server.ClientKey
import BridgeDhcp.Server.AddressSelection
import BridgeDhcp.Server.AddressDue
import BridgeDhcp.Server.AddressServer
import BridgeDhcp.Server.Dhcp4Server
import BridgeDhcp.Server.Dhcp6Server
import BridgeDhcp.Server.SelectionSoundness
import BridgeDhcp.Server.LeaseExclusivity
import BridgeDhcp.Server.ClientNoninterference
import BridgeDhcp.Server.LeaseUniqueness
import BridgeDhcp.Server.Reservation
import BridgeDhcp.Server.SpecialAddress
import BridgeDhcp.Server.AddressStability
import BridgeDhcp.Server.Handshake4
import BridgeDhcp.Server.BookingNotice
import BridgeDhcp.Server.LockedHandlers
import BridgeDhcp.Server.LockedCalm
import BridgeDhcp.Server.LockedSteps
import BridgeDhcp.Server.InterleavedLeases
import BridgeDhcp.Ifwatch.Watcher
import BridgeDhcp.Server.Attachment
import BridgeDhcp.Server.StateStore
import BridgeDhcp.Pd.Delegation
import BridgeDhcp.Pd.Client
import BridgeDhcp.Pd.StateMachine
import BridgeDhcp.Pd.RoutineRules
import BridgeDhcp.Pd.CallbackDiscipline
import BridgeDhcp.Pd.ExpiredDelegation
import BridgeDhcp.Pd.EarlyConfirmation
import BridgeDhcp.Pd.ConfirmedPrefix
import BridgeDhcp.Pd.TurnRules
import BridgeDhcp.Pd.BoundLoop
import BridgeDhcp.Pd.WithdrawalEvidence
import BridgeDhcp.Pd.ReleaseTarget
import BridgeDhcp.PdRoute.Routes
import BridgeDhcp.PdRoute.TableContents
import BridgeDhcp.PdRoute.Forwarding
import BridgeDhcp.PdRoute.Renumbering
import BridgeDhcp.PdRoute.Sysctl
import BridgeDhcp.PdRoute.SysctlOrder
import BridgeDhcp.PdRoute.SysctlFailures
import BridgeDhcp.Server.IfaceConfig
import BridgeDhcp.Config.File
import BridgeDhcp.PdRoute.Isolation
import BridgeDhcp.Server.ComposePd
import BridgeDhcp.Server.ReplyDelivery
import BridgeDhcp.Config.Duid
import BridgeDhcp.Dns.Port
import BridgeDhcp.Dns.Upstream
import BridgeDhcp.Dns.Relay
import BridgeDhcp.Dns.Stream
import BridgeDhcp.Dns.ResolvConf
import BridgeDhcp.Server.RouterAdvert
import BridgeDhcp.Server.AdvertBytes
import BridgeDhcp.Transport.Filter
import BridgeDhcp.Transport.ReadLoop
import BridgeDhcp.Server.PrefixDeprecation
import BridgeDhcp.Server.AdvertLoops
import BridgeDhcp.Server.AdvertSettings
import BridgeDhcp.Server.WithdrawalReach
import BridgeDhcp.Config.AdvertLifetimes
import BridgeDhcp.Server.PdPlumbing
import BridgeDhcp.Server.ServedPrefix
import BridgeDhcp.Server.Teardown
import BridgeDhcp.Server.InterfaceLoss
import BridgeDhcp.Server.Manager
import BridgeDhcp.Server.ManagerSteps
import BridgeDhcp.Server.DurableChange
import BridgeDhcp.Server.StateRoundTrip
import BridgeDhcp.Server.StaticCalls
import BridgeDhcp.Config.Startup
import BridgeDhcp.Config.CleanRestart
import BridgeDhcp.Api.Handlers
import BridgeDhcp.Api.Effects
import BridgeDhcp.Api.Ctl

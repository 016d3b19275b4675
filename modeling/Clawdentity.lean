import Clawdentity.Proxy.Relay.NoLostDelivery
import Clawdentity.Proxy.Relay.Fidelity
import Clawdentity.Proxy.Relay.ConcurrentDuplicates
import Clawdentity.Proxy.Relay.Representation
import Clawdentity.Proxy.Relay.Wakeups
import Clawdentity.Wire.ProxyToConnector
import Clawdentity.Wire.ReceiptCorrelation
import Clawdentity.Rust.Inbound
import Clawdentity.Proxy.ReceiptRoute
import Clawdentity.Rust.PairAccepted
import Clawdentity.Rust.Frames
import Clawdentity.Proxy.NonceReplay
import Clawdentity.Proxy.TicketSingleUse
import Clawdentity.Registry.AgentRegistration
import Clawdentity.Registry.AgentQuota
import Clawdentity.Registry.AgentRevocation
import Clawdentity.Proxy.ReceiptPush
import Clawdentity.Proxy.ReceiptSeparation
import Clawdentity.Proxy.TrustIndex
import Clawdentity.Proxy.TicketMaps
import Clawdentity.Proxy.PendingTickets
import Clawdentity.Proxy.TicketStatus
import Clawdentity.Proxy.Authorization
import Clawdentity.Rust.DeadLetters
import Clawdentity.Rust.SystemDelivery
import Clawdentity.Wire.SystemEvents
import Clawdentity.Wire.RevocationEvents
import Clawdentity.Registry.StarterPass
import Clawdentity.Registry.GroupJoin
import Clawdentity.Registry.InviteRedeem
import Clawdentity.Registry.AgentAuth
import Clawdentity.Registry.RevocationRetries
import Clawdentity.Registry.RefreshRotation
import Clawdentity.Rust.Outbound
import Clawdentity.Wire.OutboundFrames
import Clawdentity.Sdk.CrlCache
import Clawdentity.Sdk.CrlOverlap
import Clawdentity.Sdk.CrlJwt
import Clawdentity.Registry.CrlRoute
import Clawdentity.Wire.CrlPipeline
import Clawdentity.Rust.OutboundRelay
import Clawdentity.Rust.DeliverAck
import Clawdentity.Rust.InboundMoves
import Clawdentity.Connector.InboxCapacity
import Clawdentity.Wire.SignedRequests
import Clawdentity.Wire.DidGrammar
import Clawdentity.Wire.AitVerification
import Clawdentity.Wire.IssuerAgreement
import Clawdentity.Proxy.NonceStores
import Clawdentity.Proxy.TrustStores
import Clawdentity.Proxy.Relay.Attempts
import Clawdentity.Proxy.Relay.LiveSocket
import Clawdentity.Proxy.ReceiptEvents
import Clawdentity.Proxy.RevocationMarkers
import Clawdentity.Registry.AgentReissue
import Clawdentity.Sdk.RefreshFlight
import Clawdentity.Registry.AgentList
import Clawdentity.Registry.RateLimit
import Clawdentity.Rust.ReceiptRetries
import Clawdentity.Lib.Quoted
import Clawdentity.Proxy.TicketText
import Clawdentity.Proxy.NonceSweep
import Clawdentity.Rust.OutboundBound
import Clawdentity.Rust.GroupFanOut
import Clawdentity.Lib.Custody
import Clawdentity.Rust.RelayRejections
import Clawdentity.Rust.PeerBook
import Clawdentity.Rust.PeerRefresh
import Clawdentity.Lib.Sql
import Clawdentity.Rust.Migrations
import Clawdentity.Rust.Crl
import Clawdentity.Registry.ApiKeyToken
import Clawdentity.Lib.Attempts
import Clawdentity.Rust.ReceiptForwards
import Clawdentity.Lib.Precedence
import Clawdentity.Connector.ReceiptOutbox
import Clawdentity.Connector.Replay
import Clawdentity.Connector.ReplayOrder
import Clawdentity.Connector.ReplayPolicy
import Clawdentity.Connector.ReceiptsKept
import Clawdentity.Connector.OutboundQueue
import Clawdentity.Connector.QueuedFrames
import Clawdentity.Connector.ClientWatchdog
import Clawdentity.Connector.ClientPace
import Clawdentity.Proxy.AuthenticatedRequests
import Clawdentity.Registry.AdminBootstrap
import Clawdentity.Registry.ServiceHistory
import Clawdentity.Connector.WebhookAttempts
import Clawdentity.Registry.GroupAuthority

import BlocksGenesis.Python.Text
import BlocksGenesis.Python.Value
import BlocksGenesis.Python.Footprint
import BlocksGenesis.Auth.Context
import BlocksGenesis.Auth.Request
import BlocksGenesis.Auth.Jwt
import BlocksGenesis.Auth.Provider
import BlocksGenesis.Auth.Selector
import BlocksGenesis.Auth.Fallback
import BlocksGenesis.Auth.Authenticate
import BlocksGenesis.Mongo.Collection
import BlocksGenesis.Auth.Permission
import BlocksGenesis.Auth.Binding
import BlocksGenesis.Auth.External
import BlocksGenesis.Delegation.Factory
import BlocksGenesis.Delegation.Chain
import BlocksGenesis.Delegation.Impersonation
import BlocksGenesis.Delegation.External
import BlocksGenesis.Message.AzureWorker
import BlocksGenesis.Machine.Run
import BlocksGenesis.Python.Dict
import BlocksGenesis.Tenants.TenantService
import BlocksGenesis.Tenants.Freshness
import BlocksGenesis.Asyncio.Lock
import BlocksGenesis.Delegation.TokenProvider
import BlocksGenesis.Delegation.SingleFlight
import BlocksGenesis.Delegation.StaleToken
import BlocksGenesis.Delegation.TokenTenant
import BlocksGenesis.Asyncio.LoadSharing
import BlocksGenesis.Auth.Disabled
import BlocksGenesis.Auth.Transport
import BlocksGenesis.Database.MongoContext
import BlocksGenesis.Message.Settlement
import BlocksGenesis.Asyncio.LoadFreshness
import BlocksGenesis.Auth.ProviderStore
import BlocksGenesis.Tenants.Impatience
import BlocksGenesis.Delegation.Traced
import BlocksGenesis.Message.Traced
import BlocksGenesis.Delegation.Decides
import BlocksGenesis.Delegation.Masked
import BlocksGenesis.Delegation.Renaming
import BlocksGenesis.Delegation.Asked
import BlocksGenesis.Message.Masked
import BlocksGenesis.Message.Unseen
import BlocksGenesis.Lmt.Span
import BlocksGenesis.Lmt.TraceExporter
import BlocksGenesis.Lmt.LogExporter
import BlocksGenesis.Message.Delivery
import BlocksGenesis.Auth.Selection
import BlocksGenesis.Auth.Hops
import BlocksGenesis.Auth.AllOrNothing
import BlocksGenesis.Auth.ClaimPath
import BlocksGenesis.Auth.Washed
import BlocksGenesis.Delegation.Subject
import BlocksGenesis.Python.Lower
import BlocksGenesis.Tenants.DomainLookup
import BlocksGenesis.Mongo.Bson
import BlocksGenesis.Auth.ProviderRows
import BlocksGenesis.Delegation.Signature
import BlocksGenesis.Python.Base64
import BlocksGenesis.Crypto.Aead
import BlocksGenesis.Utilities.CryptoService
import BlocksGenesis.Python.Url
import BlocksGenesis.Delegation.EndpointResolver
import BlocksGenesis.Python.Padded
import BlocksGenesis.Python.Hostname
import BlocksGenesis.Auth.Hosts
import BlocksGenesis.Auth.TokenOrder
import BlocksGenesis.Middlewares.TenantMiddleware
import BlocksGenesis.Tenants.CacheFrame
import BlocksGenesis.Asyncio.Standing
import BlocksGenesis.Message.AzureMessageClient
import BlocksGenesis.Message.SharedSenders
import BlocksGenesis.Message.SettledOnce
import BlocksGenesis.Message.ActiveRenewals
import BlocksGenesis.Message.LockRenewal
import BlocksGenesis.Cache.Subscription
import BlocksGenesis.Cache.Subscriptions
import BlocksGenesis.Lmt.FailingInserts
import BlocksGenesis.Lmt.ForceFlush
import BlocksGenesis.Delegation.Sweep
import BlocksGenesis.Database.Pools
import BlocksGenesis.Message.RabbitMqConnections
import BlocksGenesis.Python.Query
import BlocksGenesis.Cache.ConnectionString
import BlocksGenesis.Cache.ReadBack
import BlocksGenesis.Auth.TenantCert
import BlocksGenesis.Lmt.IdleLogs
import BlocksGenesis.Message.EventRegistry
import BlocksGenesis.Middlewares.ResponseSize
import BlocksGenesis.Lmt.Sdk
import BlocksGenesis.Lmt.Activity
import BlocksGenesis.Database.CommandActivities
import BlocksGenesis.Message.HopTraced
import BlocksGenesis.Message.ServiceBusConfig
import BlocksGenesis.Message.Wire
import BlocksGenesis.Tenants.Broadcast
import BlocksGenesis.Middlewares.Server
import BlocksGenesis.Machine.Broker
import BlocksGenesis.Machine.Queue
import BlocksGenesis.Message.BusQueue
import BlocksGenesis.Message.RabbitQueue
import BlocksGenesis.Auth.SecurityLog
import BlocksGenesis.Auth.SecurityStory

import AuthService.Concurrency.Program
import AuthService.Concurrency.Interleaving
import AuthService.Construction.Domain
import AuthService.Construction.Input
import AuthService.Encoding.Binary
import AuthService.Construction.Guard
import AuthService.Construction.LockoutRule
import AuthService.Construction.Commands
import AuthService.Construction.Handlers
import AuthService.Construction.Stores
import AuthService.Construction.Postgres
import AuthService.Construction.Memory
import AuthService.Construction.World
import AuthService.Proof.SessionRows
import AuthService.Proof.PostgresRows
import AuthService.Proof.MemoryRows
import AuthService.Proof.Conduct
import AuthService.Proof.ConductRules
import AuthService.Proof.HandlerConduct
import AuthService.Proof.Frames
import AuthService.Proof.Ledger
import AuthService.Proof.SingleUse
import AuthService.Proof.ResetRecords
import AuthService.Proof.ResetToken
import AuthService.Proof.Installed
import AuthService.Proof.PasswordReset
import AuthService.Concurrency.ReadCommitted
import AuthService.Construction.Transactions
import AuthService.Proof.BulkRevocation
import AuthService.Proof.Statements
import AuthService.Proof.ResetAuthority
import AuthService.Proof.CachedSessions
import AuthService.Proof.RefreshChain
import AuthService.Proof.Solo
import AuthService.Proof.CacheTransparency
import AuthService.Proof.ExactAnswers
import AuthService.Proof.BackendAgreement
import AuthService.Proof.FailedRequests
import AuthService.Proof.ResetRevocation
import AuthService.Proof.ClientAddress
import AuthService.Proof.CacheConduct
import AuthService.Proof.SessionFrames
import AuthService.Proof.Ownership
import AuthService.Proof.Isolation
import AuthService.Proof.CacheCoherence
import AuthService.Construction.ResetStores
import AuthService.Proof.ResetCodes
import AuthService.Proof.GuessBound
import AuthService.Proof.SingleCode
import AuthService.Concurrency.Sequential
import AuthService.Proof.LocalFallback
import AuthService.Proof.SequentialLogin
import AuthService.Proof.AccountLockout
import AuthService.Proof.LoginPrivacy
import AuthService.Proof.ResetPrivacy
import AuthService.Proof.ParallelGuessing
import AuthService.Proof.FailureCounts
import AuthService.Proof.CodeAttempts
import AuthService.Construction.RateLimit
import AuthService.Encoding.Separators
import AuthService.Proof.FixedWindow
import AuthService.Proof.RateLimitBuckets
import AuthService.Construction.RedisResets
import AuthService.Proof.MemoryIndexes
import AuthService.Proof.ResetAgreement
import AuthService.Construction.Password
import AuthService.Proof.PasswordHashes
import AuthService.Proof.SequentialRefresh
import AuthService.Proof.ActiveSessions
import AuthService.Proof.PasswordPolicy
import AuthService.Proof.AttemptsLeft
import AuthService.Construction.Background
import AuthService.Concurrency.Projection
import AuthService.Proof.OptionalDependencies
import AuthService.Concurrency.Gate
import AuthService.Concurrency.Simulation
import AuthService.Construction.Jwt
import AuthService.Construction.OneRedis
import AuthService.Construction.RepositoryCalls
import AuthService.Proof.AccessTokens
import AuthService.Proof.AtomicCalls
import AuthService.Proof.IdealService
import AuthService.Proof.Interceptor
import AuthService.Proof.Linearization
import AuthService.Proof.OneRedis
import AuthService.Proof.ServerLimits
import AuthService.Proof.TokenAuthenticity

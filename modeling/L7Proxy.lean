import L7Proxy.Library.Program
import L7Proxy.Library.Execution
import L7Proxy.Library.CircuitBreaker
import L7Proxy.Library.SlidingWindow
import L7Proxy.Library.TokenBucket
import L7Proxy.Library.HashCircle
import L7Proxy.Library.CyclicSchedule
import L7Proxy.Library.DelimitedList
import L7Proxy.Library.Simulation
import L7Proxy.Library.Polling
import L7Proxy.Library.Refresh
import L7Proxy.Primitives
import L7Proxy.Config
import L7Proxy.Http
import L7Proxy.Errors
import L7Proxy.Balancer.Basic
import L7Proxy.Balancer.Selection
import L7Proxy.Balancer.Ring
import L7Proxy.Balancer.Proportion
import L7Proxy.Balancer.LeastLoaded
import L7Proxy.Balancer.ConcurrentPicks
import L7Proxy.Health.Basic
import L7Proxy.Health.History
import L7Proxy.Health.Purity
import L7Proxy.RetryBudget.Basic
import L7Proxy.RetryBudget.Window
import L7Proxy.RetryBudget.Retention
import L7Proxy.RateLimiter.Basic
import L7Proxy.RateLimiter.Reference
import L7Proxy.RateLimiter.Contract
import L7Proxy.RateLimiter.Table
import L7Proxy.RateLimiter.Concurrent
import L7Proxy.Router
import L7Proxy.Router.LongestPrefix
import L7Proxy.State
import L7Proxy.Proxy.Effect
import L7Proxy.Proxy.Forward
import L7Proxy.Proxy.Request
import L7Proxy.Proxy.PathRewriting
import L7Proxy.Proxy.TargetRewriting
import L7Proxy.Proxy.Headers
import L7Proxy.Proxy.RetryLoop
import L7Proxy.Proxy.GivingUp
import L7Proxy.Proxy.Routing
import L7Proxy.Proxy.Effort
import L7Proxy.Proxy.Stopwatch
import L7Proxy.Proxy.Backoff
import L7Proxy.Proxy.Ledger
import L7Proxy.Proxy.Accounts
import L7Proxy.Proxy.Attempts
import L7Proxy.Proxy.Answers
import L7Proxy.Proxy.HeaderFlow
import L7Proxy.Proxy.Relocation
import L7Proxy.ConfigReloader
import L7Proxy.Balancer.Removal
import L7Proxy.Middleware
import L7Proxy.Middleware.RetryAfter
import L7Proxy.System.Basic
import L7Proxy.System.Tasks
import L7Proxy.System.Components
import L7Proxy.System.LeastConnections
import L7Proxy.System.Reload
import L7Proxy.System.Reloading
import L7Proxy.System.Restart
import L7Proxy.System.Fallback
import L7Proxy.System.HealthCheck
import L7Proxy.System.Probing
import L7Proxy.System.Metrics
import L7Proxy.System.Accounting
import L7Proxy.System.Durations
import L7Proxy.System.Balancers
import L7Proxy.System.Snapshots
import L7Proxy.System.Responses
import L7Proxy.System.Progress

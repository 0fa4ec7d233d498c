import AgentPlatform.Base.Text
import AgentPlatform.Base.IntegerText
import AgentPlatform.Base.Machine
import AgentPlatform.Base.History
import AgentPlatform.Base.Rounding
import AgentPlatform.Base.Double
import AgentPlatform.Base.SlidingWindow
import AgentPlatform.Base.RateLimit
import AgentPlatform.Base.Sweep
import AgentPlatform.Base.Splice
import AgentPlatform.Base.Effect
import AgentPlatform.Base.Fallible
import AgentPlatform.Base.StateGraph
import AgentPlatform.Base.Keyed
import AgentPlatform.Base.KeyedLimit
import AgentPlatform.Rag.Models
import AgentPlatform.Rag.Chunking
import AgentPlatform.Rag.ChunkTermination
import AgentPlatform.Rag.ChunkCoverage
import AgentPlatform.ModelGateway.Contracts
import AgentPlatform.ModelGateway.Pricing
import AgentPlatform.ModelGateway.Policy
import AgentPlatform.ModelGateway.BudgetRun
import AgentPlatform.ModelGateway.BudgetIsolation
import AgentPlatform.Safety.Pii
import AgentPlatform.Safety.PiiMasking
import AgentPlatform.Safety.PiiFidelity
import AgentPlatform.Safety.ContentSafety
import AgentPlatform.ModelGateway.Gateway
import AgentPlatform.ModelGateway.Mediation
import AgentPlatform.ModelGateway.MockChatModel
import AgentPlatform.ModelGateway.Attribution
import AgentPlatform.McpBoundary.Contracts
import AgentPlatform.McpBoundary.Gateway
import AgentPlatform.McpBoundary.Mediation
import AgentPlatform.McpBoundary.Audit
import AgentPlatform.McpBoundary.Quota
import AgentPlatform.Base.Interleaving
import AgentPlatform.Base.Alone
import AgentPlatform.Base.Sequence
import AgentPlatform.Base.Table
import AgentPlatform.Base.Unwinding
import AgentPlatform.Base.RowSecurity
import AgentPlatform.Base.Ranking
import AgentPlatform.Base.OData
import AgentPlatform.Rag.Index
import AgentPlatform.Rag.Retrieval
import AgentPlatform.Rag.Embedding
import AgentPlatform.Rag.AzureSearch
import AgentPlatform.Tenancy.Registry
import AgentPlatform.Gateway.JwtIdentity
import AgentPlatform.Base.Separated
import AgentPlatform.Gateway.Auth
import AgentPlatform.Sdk.Client
import AgentPlatform.Gateway.TokenIdentity
import AgentPlatform.Gateway.RateLimiter
import AgentPlatform.Gateway.LimiterNamespaces
import AgentPlatform.State.Records
import AgentPlatform.State.Approvals
import AgentPlatform.State.SQLite
import AgentPlatform.State.SQLiteDecisions
import AgentPlatform.State.Identifiers
import AgentPlatform.State.Instants
import AgentPlatform.State.SQLiteIsolation
import AgentPlatform.State.Chronology
import AgentPlatform.State.Postgres
import AgentPlatform.State.PostgresSessions
import AgentPlatform.State.PostgresDecisions
import AgentPlatform.State.PostgresIsolation
import AgentPlatform.State.Redis
import AgentPlatform.State.RedisKeys
import AgentPlatform.State.RedisCalls
import AgentPlatform.State.RedisFailures
import AgentPlatform.State.RedisIsolation
import AgentPlatform.State.Decisions
import AgentPlatform.State.Ledger
import AgentPlatform.State.Register
import AgentPlatform.State.SQLiteRegister
import AgentPlatform.State.PostgresRegister
import AgentPlatform.State.RedisRegister
import AgentPlatform.State.Agreement
import AgentPlatform.Gateway.Middleware
import AgentPlatform.Base.Dictionary
import AgentPlatform.Gateway.Logging
import AgentPlatform.Gateway.Envelope
import AgentPlatform.Orchestration.Contracts
import AgentPlatform.Orchestration.Supervisor
import AgentPlatform.Orchestration.Operations
import AgentPlatform.Orchestration.Investigation
import AgentPlatform.Gateway.Investigate
import AgentPlatform.Gateway.DocumentScope
import AgentPlatform.Gateway.MetricLabels
import AgentPlatform.Base.PythonJson
import AgentPlatform.McpBoundary.Arguments
import AgentPlatform.Base.Regex
import AgentPlatform.Rag.Ingestion
import AgentPlatform.Rag.ChunkScreen
import AgentPlatform.Domain.NovaBank
import AgentPlatform.Agents.Parsing
import AgentPlatform.McpBoundary.Servers
import AgentPlatform.McpBoundary.Factory
import AgentPlatform.Agents.Specialists
import AgentPlatform.Agents.Mismatch
import AgentPlatform.Models.Mock
import AgentPlatform.Evaluation.Runner
import AgentPlatform.Evaluation.Independence
import AgentPlatform.Rag.Versions
import AgentPlatform.Base.ExactLimit
import AgentPlatform.McpBoundary.RateWindow
import AgentPlatform.Rag.FrontMatter
import AgentPlatform.Rag.IngestionErrors
import AgentPlatform.ModelGateway.Retries
import AgentPlatform.Base.Scan
import AgentPlatform.Base.Runs
import AgentPlatform.Rag.Groundedness
import AgentPlatform.Rag.CitationCuts
import AgentPlatform.Rag.ChunkIds
import AgentPlatform.Base.Records
import AgentPlatform.Rag.Synthesis
import AgentPlatform.Agents.SizeBounds
import AgentPlatform.McpBoundary.Provenance
import AgentPlatform.Base.Raising
import AgentPlatform.Base.Allowance
import AgentPlatform.Base.Progress
import AgentPlatform.ModelGateway.Concurrent
import AgentPlatform.ModelGateway.ConcurrentRuns
import AgentPlatform.ModelGateway.ConcurrentMediation
import AgentPlatform.State.PostgresProgress
import AgentPlatform.Base.Admission
import AgentPlatform.Gateway.ModelRoutes
import AgentPlatform.Base.Html
import AgentPlatform.Gateway.DemoPage

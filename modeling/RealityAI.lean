import RealityAI.Library.Superstep
import RealityAI.Library.Effect
import RealityAI.Proof.OutputFilter
import RealityAI.Proof.ContentIsolation
import RealityAI.Proof.Plan.Execution
import RealityAI.Model.PlanningAgent
import RealityAI.Proof.AuditTrail
import RealityAI.Proof.Approval
import RealityAI.Proof.Enrollment
import RealityAI.Model.ActionTools
import RealityAI.Model.Gateway
import RealityAI.Proof.Gateway.Turn
import RealityAI.Proof.Gateway.Resolution
import RealityAI.Proof.Gateway.Ownership
import RealityAI.Model.Backend
import RealityAI.Model.OuterTiers
import RealityAI.Proof.Backend
import RealityAI.Proof.Front
import RealityAI.Proof.AuditPrivacy
import RealityAI.Model.PlanAgent
import RealityAI.Model.QueryAgent
import RealityAI.Proof.Plan.Acceptance
import RealityAI.Proof.Plan.Agent
import RealityAI.Proof.Plan.Failures
import RealityAI.Proof.Plan.References
import RealityAI.Proof.Query
import RealityAI.Proof.Replies
import RealityAI.Proof.Transcripts
import RealityAI.Library.Firsts
import RealityAI.Library.Separated
import RealityAI.Library.SlidingWindow
import RealityAI.Model.Cache
import RealityAI.Model.Courses
import RealityAI.Model.RateLimit
import RealityAI.Model.Streams
import RealityAI.Proof.Cache
import RealityAI.Proof.Courses
import RealityAI.Proof.Gateway.Streams
import RealityAI.Proof.Lifecycle
import RealityAI.Proof.Plan.Placeholders
import RealityAI.Proof.RateLimit
import RealityAI.Proof.Reasoning.Completeness
import RealityAI.Proof.Reasoning.Gaps
import RealityAI.Library.Regex.Segments
import RealityAI.Library.StableSort
import RealityAI.Model.PromptGuard
import RealityAI.Proof.Coref
import RealityAI.Proof.ParameterFormat
import RealityAI.Proof.Plan.Report
import RealityAI.Proof.PromptGuard.Failures
import RealityAI.Proof.PromptGuard.Heuristic
import RealityAI.Proof.Reasoning.Options
import RealityAI.Proof.Reasoning.Progress
import RealityAI.Proof.Redaction
import RealityAI.Library.Regex.Words
import RealityAI.Model.Degradation
import RealityAI.Proof.Degradation
import RealityAI.Proof.Hallucination
import RealityAI.Proof.ReasonCodes
import RealityAI.Library.Latest
import RealityAI.Model.ChatHook
import RealityAI.Model.SharedDocuments
import RealityAI.Proof.CacheKey
import RealityAI.Proof.ChatHook
import RealityAI.Proof.RateWindow
import RealityAI.Proof.Retrieval.Fusion
import RealityAI.Proof.Retrieval.Merge
import RealityAI.Library.Header
import RealityAI.Library.Keyed
import RealityAI.Model.Chat
import RealityAI.Model.CoreApi
import RealityAI.Model.Dashboard
import RealityAI.Model.PromptLibrary
import RealityAI.Proof.Answers
import RealityAI.Proof.Chat.Answers
import RealityAI.Proof.Chat.Confinement
import RealityAI.Proof.Chat.History
import RealityAI.Proof.CoreApi
import RealityAI.Proof.Dashboard.Agreement
import RealityAI.Proof.Dashboard.Convergence
import RealityAI.Proof.Gateway.Delivery
import RealityAI.Proof.Plan.Confluence
import RealityAI.Proof.Prompts.Format
import RealityAI.Proof.Prompts.Process
import RealityAI.Proof.Dashboard.Privacy
import RealityAI.Proof.Chat.Records
import RealityAI.Proof.CorefGate

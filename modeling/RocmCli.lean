import RocmCli.Process.Termination
import RocmCli.Process.Tree
import RocmCli.Process.WindowsCommandLine
import RocmCli.Automation.ProposalRuns
import RocmCli.Runtimes.AllOrNothing
import RocmCli.Runtimes.Selection
import RocmCli.Gguf.Truncation
import RocmCli.Gguf.LongerFiles
import RocmCli.Gguf.BoundedWalk
import RocmCli.Runtimes.MapLaw
import RocmCli.Runtimes.PruneSafety
import RocmCli.Dashboard.ClientCommands
import RocmCli.Dashboard.ClientHistory
import RocmCli.Dashboard.Cards
import RocmCli.Dashboard.Jobs
import RocmCli.Dashboard.Observation
import RocmCli.ToolPolicy.ApprovalCard
import RocmCli.ToolPolicy.ApprovedRuns
import RocmCli.Provider.FramingAgreement
import RocmCli.Lemonade.ExtractionSafety
import RocmCli.MetadataCache.Transparency
import RocmCli.Vllm.Settlement
import RocmCli.Remote.SessionNames
import RocmCli.Runtimes.OneAnswer
import RocmCli.Automation.OneDaemon
import RocmCli.Doctor.Disclosure
import RocmCli.Automation.Rotation
import RocmCli.JsonlStore.BackwardLines
import RocmCli.ModelCatalog.CacheHistory
import RocmCli.Aim.DecidedEnv
import RocmCli.Process.PathFix
import RocmCli.Comfyui.Stopping
import RocmCli.Serve.OverridesApplied
import RocmCli.ModelCatalog.SignedIndex
import RocmCli.Net.Completeness
import RocmCli.Terminal.Sanitising
import RocmCli.Runtimes.Retention
import RocmCli.Therock.Stack
import RocmCli.Therock.TwoOrders
import RocmCli.Uninstall.ProfileUndo
import RocmCli.ServiceLog.LogTail
import RocmCli.Telemetry.PowerAttribution
import RocmCli.Telemetry.BenchCsv
import RocmCli.Gguf.FileSelection
import RocmCli.Dashboard.Replay
import RocmCli.Dashboard.Scrollbar
import RocmCli.Dashboard.ImagePatterns
import RocmCli.Gpu.Preference
import RocmCli.Gguf.Advice
import RocmCli.ToolPolicy.Agreement

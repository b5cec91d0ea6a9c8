import StagedFormat.Text.Blank
import StagedFormat.Text.Pieces
import StagedFormat.Text.Utf8
import StagedFormat.Text.Quoted
import StagedFormat.World.FileTree
import StagedFormat.World.Event
import StagedFormat.FilesArgument.PassMode
import StagedFormat.Glob.Compile
import StagedFormat.Glob.Match
import StagedFormat.Decimal.Binary64
import StagedFormat.Config.Load
import StagedFormat.Config.Settings
import StagedFormat.Plan.Phases
import StagedFormat.Repository.Queries
import StagedFormat.Wrapper
import StagedFormat.Report.Narration
import StagedFormat.Hook.Install
import StagedFormat.CommandLine.Help
import StagedFormat.CommandLine.Parse
import StagedFormat.Run
import StagedFormat.Main
import StagedFormat.Proofs.CallTrace
import StagedFormat.Proofs.PatternLanguage
import StagedFormat.Proofs.HookInvariant
import StagedFormat.Proofs.OneDocument
import StagedFormat.Proofs.Verdict
import StagedFormat.Proofs.Account
import StagedFormat.Proofs.DryRun
import StagedFormat.Proofs.Presentation
import StagedFormat.Proofs.PlanningSession
import StagedFormat.Proofs.ReportReader
import StagedFormat.Proofs.FilesAfterDashes
import StagedFormat.Proofs.Candidates
import StagedFormat.Proofs.EntryList
import StagedFormat.Proofs.Respelling
import StagedFormat.Proofs.SectionRemoval
import StagedFormat.Proofs.ForcedInstall
import StagedFormat.Proofs.ChangeCounts
import StagedFormat.Proofs.NamedDirectories
import StagedFormat.Proofs.InvokedFlag
import StagedFormat.Proofs.Change
import StagedFormat.Proofs.SparedHooks
import StagedFormat.Proofs.GlobLanguage
import StagedFormat.Proofs.IncludeFilter
import StagedFormat.Proofs.QuotedText
import StagedFormat.Proofs.ShellQuoting
import StagedFormat.Proofs.CommandFirst
import StagedFormat.Proofs.ConfigDocument
import StagedFormat.Proofs.TableNotations
import StagedFormat.Proofs.KeptLines

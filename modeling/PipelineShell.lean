import PipelineShell.Main
import PipelineShell.Proofs.AppendedEntries
import PipelineShell.Proofs.BlankLine
import PipelineShell.Proofs.BuiltinFrame
import PipelineShell.Proofs.DecodedFile
import PipelineShell.Proofs.Denotation
import PipelineShell.Proofs.ExecutedFile
import PipelineShell.Proofs.FailedRedirection
import PipelineShell.Proofs.FirstMatch
import PipelineShell.Proofs.IgnoredRedirections
import PipelineShell.Proofs.PipeGroups
import PipelineShell.Proofs.PipeProgress
import PipelineShell.Proofs.Quoting
import PipelineShell.Proofs.RedirectionPlace
import PipelineShell.Proofs.Rendering
import PipelineShell.Proofs.RoutedStream
import PipelineShell.Proofs.SavedHistory
import PipelineShell.Proofs.ShownHistory
import PipelineShell.Proofs.StateThreading
import PipelineShell.Proofs.ToldNames
import PipelineShell.Proofs.TrimmedLine
import PipelineShell.Proofs.UnfinishedLine
import PipelineShell.Proofs.WorkingDirectory

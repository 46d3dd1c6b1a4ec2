import TemplateTree.Main
import TemplateTree.Proofs.Build.Completion
import TemplateTree.Proofs.Build.Edits
import TemplateTree.Proofs.Build.FullRuns
import TemplateTree.Proofs.Build.Partition
import TemplateTree.Proofs.Build.Repeats
import TemplateTree.Proofs.Build.Reporting
import TemplateTree.Proofs.Build.Revisions
import TemplateTree.Proofs.Build.Selection
import TemplateTree.Proofs.CommandLine.Failing
import TemplateTree.Proofs.Environment.Named
import TemplateTree.Proofs.Sections.RoundTrip
import TemplateTree.Proofs.Source.LineMap
import TemplateTree.Proofs.Environment.Binding
import TemplateTree.Proofs.Output.Leaving
import TemplateTree.Proofs.Output.Newlines
import TemplateTree.Proofs.Source.Untagged
import TemplateTree.Proofs.Environment.Unparsed
import TemplateTree.Proofs.Sections.LineEndings
import TemplateTree.Proofs.Extension.Guards
import TemplateTree.Proofs.Settings.WellFormed
import TemplateTree.Proofs.Build.Counting
import TemplateTree.Proofs.Environment.Reported
import TemplateTree.Proofs.Output.Switching
import TemplateTree.Proofs.Source.Returns
import TemplateTree.Proofs.Build.Cutoff
import TemplateTree.Proofs.Environment.Commented
import TemplateTree.Proofs.Build.Progress

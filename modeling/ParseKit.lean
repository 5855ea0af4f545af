import ParseKit.CommandLine.Folder
import ParseKit.Main
import ParseKit.Value.Number
import ParseKit.Value.Hash
import ParseKit.Value.Literal
import ParseKit.Value.Members
import ParseKit.Proofs.Excerpt.Lossless
import ParseKit.Proofs.Actions.Generic
import ParseKit.Proofs.Outcome.Classification
import ParseKit.Proofs.Outcome.Caret
import ParseKit.Proofs.Node.Separation
import ParseKit.Proofs.Node.Discipline
import ParseKit.Proofs.Node.Snapshot
import ParseKit.Proofs.Actions.Order
import ParseKit.Proofs.Actions.FirstFailure
import ParseKit.Proofs.Actions.Accepted
import ParseKit.Proofs.Text.LineEnds
import ParseKit.Proofs.Value.OneLine
import ParseKit.Proofs.Node.Lines
import ParseKit.Proofs.Build.Accessor
import ParseKit.Proofs.Actions.Reserved
import ParseKit.Proofs.CommandLine.Exit
import ParseKit.Proofs.Actions.Unrolling
import ParseKit.Proofs.Node.Adding
import ParseKit.Proofs.Outcome.Normalised
import ParseKit.Proofs.Node.Pruning
import ParseKit.Proofs.Forest.Closing
import ParseKit.Proofs.Forest.Grown
import ParseKit.Proofs.Node.Growth
import ParseKit.Proofs.Node.Growing
import ParseKit.Proofs.Value.Refusal
import ParseKit.Proofs.Node.Merging
import ParseKit.Proofs.Node.Removing
import ParseKit.Proofs.Build.Flattening
import ParseKit.Proofs.Actions.Tokens
import ParseKit.Proofs.Build.Standard
import ParseKit.Proofs.Node.Quoting
import ParseKit.Proofs.Node.Rearranged
import ParseKit.Proofs.Node.Unprintable
import ParseKit.Proofs.Outcome.Unordered
import ParseKit.Proofs.Outcome.Headline
import ParseKit.Proofs.Outcome.Arguments
import ParseKit.Proofs.Build.Ways

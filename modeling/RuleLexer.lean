import RuleLexer.Main
import RuleLexer.Proofs.CommandLine.TableFiles
import RuleLexer.Proofs.Document.Notation
import RuleLexer.Proofs.Document.RoundTrip
import RuleLexer.Proofs.Engine.Classification
import RuleLexer.Proofs.Engine.Control
import RuleLexer.Proofs.Engine.Exchange
import RuleLexer.Proofs.Engine.Extension
import RuleLexer.Proofs.Engine.Idling
import RuleLexer.Proofs.Engine.Nesting
import RuleLexer.Proofs.Engine.Origin
import RuleLexer.Proofs.Engine.Progress
import RuleLexer.Proofs.Engine.Recovery
import RuleLexer.Proofs.Engine.Resumption
import RuleLexer.Proofs.Engine.StackLaw
import RuleLexer.Proofs.Engine.StackRoom
import RuleLexer.Proofs.Language.GsqlEdges
import RuleLexer.Proofs.Regex.Consumption
import RuleLexer.Proofs.Regex.LookFree
import RuleLexer.Proofs.Regex.Plain
import RuleLexer.Proofs.Regex.Splitting
import RuleLexer.Proofs.Rule.Canonical
import RuleLexer.Proofs.Rule.EmptyWord
import RuleLexer.Proofs.Rule.FoldedWords
import RuleLexer.Proofs.Rule.LongestWord
import RuleLexer.Proofs.Table.Admission
import RuleLexer.Proofs.Table.Building
import RuleLexer.Proofs.Table.Closed
import RuleLexer.Proofs.Table.Cycles
import RuleLexer.Proofs.Table.Flattening
import RuleLexer.Proofs.Table.Inlining
import RuleLexer.Proofs.Table.Resolution
import RuleLexer.Proofs.Table.Splicing
import RuleLexer.Proofs.Token.Lines
import RuleLexer.Proofs.Tokens.Coverage
import RuleLexer.Proofs.Tokens.Laziness
import RuleLexer.Proofs.Tokens.Termination
import RuleLexer.Token.Check
import RuleLexer.Proofs.Engine.Runaway
import RuleLexer.Proofs.Token.Covering

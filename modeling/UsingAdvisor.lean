import UsingAdvisor.Text.Word
import UsingAdvisor.Text.Lines
import UsingAdvisor.Text.Padding
import UsingAdvisor.Source.Scan
import UsingAdvisor.Scope
import UsingAdvisor.MissingName
import UsingAdvisor.Text.Order
import UsingAdvisor.Json.Printer
import UsingAdvisor.Json.Parser
import UsingAdvisor.Document.Edit
import UsingAdvisor.SymbolIndex
import UsingAdvisor.SymbolIndex.Operation
import UsingAdvisor.Url.Parser
import UsingAdvisor.Url.FilePath
import UsingAdvisor.Workspace
import UsingAdvisor.SymbolIndex.Listing
import UsingAdvisor.Advice.Completion
import UsingAdvisor.Advice.QuickFix
import UsingAdvisor.Settings
import UsingAdvisor.Session
import UsingAdvisor.Main
import UsingAdvisor.Double
import UsingAdvisor.Proofs.Text.Lines
import UsingAdvisor.Proofs.Document.Offset
import UsingAdvisor.Proofs.Text.Stop
import UsingAdvisor.Proofs.Source.Headers
import UsingAdvisor.Proofs.Directive.Line
import UsingAdvisor.Proofs.Directive.Cut
import UsingAdvisor.Proofs.Advice.Insertion
import UsingAdvisor.Proofs.Advice.Convergence
import UsingAdvisor.Proofs.Advice.LastLine
import UsingAdvisor.Proofs.Document.Client
import UsingAdvisor.Proofs.Advice.Agreement
import UsingAdvisor.Proofs.Session.Connection
import UsingAdvisor.Proofs.Protocol.Requests
import UsingAdvisor.Proofs.Advice.Partition
import UsingAdvisor.Proofs.Workspace.Index
import UsingAdvisor.Proofs.Workspace.Discovery
import UsingAdvisor.Proofs.Source.Blocks
import UsingAdvisor.Proofs.Source.Passes
import UsingAdvisor.Proofs.Advice.OwnNamespaces
import UsingAdvisor.Proofs.Advice.LineEndings
import UsingAdvisor.Proofs.Advice.OwnSymbols
import UsingAdvisor.Proofs.Advice.Mark
import UsingAdvisor.Proofs.Advice.Numbering
import UsingAdvisor.Proofs.Workspace.Overlap
import UsingAdvisor.Proofs.SymbolIndex.History
import UsingAdvisor.Proofs.SymbolIndex.ReadBack
import UsingAdvisor.Proofs.Settings
import UsingAdvisor.Proofs.Session.Roots
import UsingAdvisor.Proofs.Source.Seam
import UsingAdvisor.Proofs.Document.Inverse
import UsingAdvisor.Proofs.Document.Buffer
import UsingAdvisor.Proofs.Document.LineText
import UsingAdvisor.Proofs.Source.Occurrences
import UsingAdvisor.Proofs.Directive.Imports
import UsingAdvisor.Proofs.Enclosing
import UsingAdvisor.Proofs.Directive.InsertionLine
import UsingAdvisor.Proofs.MissingName.First
import UsingAdvisor.Proofs.SymbolIndex.JsonListing
import UsingAdvisor.Proofs.SymbolIndex.TableListing
import UsingAdvisor.Proofs.Url.FilePath

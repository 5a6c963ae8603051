import ModelExport.CommandLine
import ModelExport.Main
import ModelExport.Proofs.Document.Reference
import ModelExport.Proofs.Forest.Arena
import ModelExport.Proofs.Forest.Embed
import ModelExport.Proofs.Document.Append
import ModelExport.Proofs.Document.Erase
import ModelExport.Proofs.Document.Reflow
import ModelExport.Proofs.Document.Scope
import ModelExport.Proofs.Document.Phrases
import ModelExport.Proofs.Document.Arrays
import ModelExport.Proofs.Language.Comment
import ModelExport.Proofs.Language.Wrap
import ModelExport.Proofs.Session.Contract
import ModelExport.Proofs.Session.Links
import ModelExport.Proofs.Session.Repeat
import ModelExport.Proofs.Session.Arrays
import ModelExport.Proofs.Text.Literal
import ModelExport.Proofs.Template.Pieces
import ModelExport.Proofs.Template.Files
import ModelExport.Proofs.Session.Outlines
import ModelExport.Proofs.Session.Scope
import ModelExport.Proofs.Analyst.Names
import ModelExport.Proofs.Template.Grammar
import ModelExport.Proofs.Template.Values
import ModelExport.Proofs.Renderer.Refill
import ModelExport.Proofs.Template.Lines
import ModelExport.Proofs.Template.Remarks
import ModelExport.Proofs.Session.Documented
import ModelExport.Proofs.FileMap.Write
import ModelExport.Proofs.Session.Supplies
import ModelExport.Proofs.CommandLine.Execute
import ModelExport.Proofs.Model.Weights
import ModelExport.Proofs.Language.PathLiteral
import ModelExport.Proofs.Document.Fault
import ModelExport.Proofs.Renderer.Rerender
import ModelExport.Proofs.Template.Asking
import ModelExport.Proofs.Text.Cells
import ModelExport.Proofs.Language.Double
import ModelExport.Proofs.Language.Initializer
import ModelExport.Proofs.Language.Array
import ModelExport.Proofs.Layout.Place
import ModelExport.Proofs.Language.Matrix
import ModelExport.Proofs.Document.Place
import ModelExport.Proofs.Document.Rows
import ModelExport.Proofs.Path.Components
import ModelExport.Proofs.Analyst.Resolve
import ModelExport.Proofs.Document.Names
import ModelExport.Proofs.Language.Uncomment
import ModelExport.Proofs.Layout.Depth
import ModelExport.Proofs.Layout.Lines
import ModelExport.Proofs.Document.Trace
import ModelExport.Proofs.Document.Nesting

import DeclTree.Main
import DeclTree.Node.Form
import DeclTree.Proofs.Host.Run
import DeclTree.Proofs.Generate.Once
import DeclTree.Proofs.Tree.Traversal
import DeclTree.Proofs.Build.Spared
import DeclTree.Proofs.Host.Work
import DeclTree.Proofs.Host.Accessors
import DeclTree.Proofs.Build.Success
import DeclTree.Proofs.Build.Statements
import DeclTree.Proofs.Build.Assembly
import DeclTree.Proofs.Host.Function
import DeclTree.Proofs.Host.Sound
import DeclTree.Proofs.Host.WellTyped
import DeclTree.Proofs.Tree.Cycle
import DeclTree.Proofs.Tree.Relinking
import DeclTree.Proofs.Tree.Gathering
import DeclTree.Proofs.Tree.Faults
import DeclTree.Proofs.Json.Literal
import DeclTree.Proofs.Tree.Attachment
import DeclTree.Proofs.Json.Number
import DeclTree.Proofs.Json.Value
import DeclTree.Proofs.Json.Forms
import DeclTree.Proofs.Host.Identity
import DeclTree.Proofs.Host.Moves
import DeclTree.Proofs.Host.FailedOperation
import DeclTree.Proofs.Build.Operands
import DeclTree.Proofs.Host.PropertyAccessor
import DeclTree.Proofs.Host.FunctionOutcome
import DeclTree.Proofs.Host.CallOutcome
import DeclTree.Proofs.Host.BodyBegun
import DeclTree.Proofs.Symbol.History
import DeclTree.Proofs.Tree.Shown
import DeclTree.Proofs.Tree.Dump
import DeclTree.Proofs.Tree.Line
import DeclTree.Proofs.Tree.Alike
import DeclTree.Proofs.Generate.Reports
import DeclTree.Proofs.Json.View
import DeclTree.Proofs.Symbol.ShortName
import DeclTree.Proofs.Text.Quoted
import DeclTree.Proofs.Tree.Literal
import DeclTree.Proofs.Build.Marks
import DeclTree.Proofs.Generate.Marks
import DeclTree.Proofs.Host.Annotations
import DeclTree.Proofs.Host.FoundProperties

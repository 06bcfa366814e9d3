import SchemaCompiler.Main
import SchemaCompiler.Proofs.Literal
import SchemaCompiler.Proofs.Computation
import SchemaCompiler.Proofs.Shape
import SchemaCompiler.Proofs.Resolution
import SchemaCompiler.Proofs.AliasCycle
import SchemaCompiler.Proofs.Declaration
import SchemaCompiler.Proofs.Assembly
import SchemaCompiler.Proofs.Analysis
import SchemaCompiler.Proofs.ClosedGraph
import SchemaCompiler.Proofs.DeclarationOrder
import SchemaCompiler.Proofs.Grounded
import SchemaCompiler.Proofs.InlineObject
import SchemaCompiler.Proofs.Ownership
import SchemaCompiler.Proofs.Compilation
import SchemaCompiler.Proofs.Generation
import SchemaCompiler.Proofs.BatchMerge
import SchemaCompiler.Proofs.BatchFailure
import SchemaCompiler.Proofs.CompiledGraph
import SchemaCompiler.Proofs.Identifier
import SchemaCompiler.Proofs.TypeText
import SchemaCompiler.Proofs.Outcome
import SchemaCompiler.Proofs.Rendering
import SchemaCompiler.Proofs.Fault
import SchemaCompiler.Proofs.ComposeFault
import SchemaCompiler.Proofs.LoadFault
import SchemaCompiler.Proofs.CompileFault
import SchemaCompiler.Proofs.Completion
import SchemaCompiler.Proofs.ImportReading
import SchemaCompiler.Proofs.PythonUnit
import SchemaCompiler.Proofs.ImportClosure
import SchemaCompiler.Proofs.ImportOrder
import SchemaCompiler.Proofs.ModuleName
import SchemaCompiler.Proofs.KotlinUnit
import SchemaCompiler.Proofs.CommentVerdict
import SchemaCompiler.Proofs.Retargeting
import SchemaCompiler.Proofs.Unconstrained
import SchemaCompiler.Proofs.Operation
import SchemaCompiler.Proofs.FileTree
import SchemaCompiler.Proofs.Replacement
import SchemaCompiler.Proofs.SinkStep
import SchemaCompiler.Proofs.OutputPath
import SchemaCompiler.Proofs.Confinement
import SchemaCompiler.Proofs.UnitFile
import SchemaCompiler.Proofs.BatchWriting
import SchemaCompiler.Proofs.ValidationSwitch
import SchemaCompiler.Proofs.ObjectSource
import SchemaCompiler.Proofs.MemberLine
import SchemaCompiler.Proofs.MergeKey
import SchemaCompiler.Proofs.Unfolding
import SchemaCompiler.Proofs.ConstraintRules
import SchemaCompiler.Proofs.ConstraintPlacement
import SchemaCompiler.Proofs.StrictConstraint
import SchemaCompiler.Proofs.DirectiveText
import SchemaCompiler.Proofs.EnumConstant
import SchemaCompiler.Proofs.ErrorLocation
import SchemaCompiler.Proofs.ImportListing
import SchemaCompiler.Proofs.TableHistory
import SchemaCompiler.Proofs.HeaderComment
import SchemaCompiler.Proofs.NameStability
import SchemaCompiler.Proofs.UnknownKey

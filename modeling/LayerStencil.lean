import LayerStencil.CommandLine.FileTree
import LayerStencil.Main
import LayerStencil.Proofs.Segment.RoundTrip
import LayerStencil.Proofs.Failure
import LayerStencil.Proofs.Related
import LayerStencil.Proofs.Text.WhiteSpace
import LayerStencil.Proofs.Template.Visit
import LayerStencil.Proofs.Template.Scoping
import LayerStencil.Proofs.Template.MarkerOrder
import LayerStencil.Proofs.Template.Nesting
import LayerStencil.Proofs.Condition.Grammar
import LayerStencil.Proofs.Condition.Lexeme
import LayerStencil.Proofs.Condition.Reading
import LayerStencil.Proofs.Condition.Exact
import LayerStencil.Proofs.Template.Stretch
import LayerStencil.Proofs.Registry.Assembly
import LayerStencil.Proofs.Registry.Reachability
import LayerStencil.Proofs.Registry.SelfContained
import LayerStencil.Proofs.Registry.OtherApis
import LayerStencil.Proofs.Condition.Shape
import LayerStencil.Proofs.Template.DirectiveLine
import LayerStencil.Proofs.Template.Layout
import LayerStencil.Proofs.Segment.Fillable
import LayerStencil.Proofs.Template.Expandable
import LayerStencil.Proofs.Condition.Phrase
import LayerStencil.Proofs.Target.Fragment
import LayerStencil.Proofs.Target.Layer
import LayerStencil.Proofs.Target.Coverage
import LayerStencil.Proofs.Target.Shipped
import LayerStencil.Proofs.Template.GuardLines
import LayerStencil.Proofs.Template.Page
import LayerStencil.Proofs.Condition.Unbound
import LayerStencil.Proofs.Registry.Inventory
import LayerStencil.Proofs.Registry.Gating
import LayerStencil.Proofs.Registry.Monotone
import LayerStencil.Proofs.Registry.Rearrangement
import LayerStencil.Proofs.Registry.Signature
import LayerStencil.Proofs.Registry.CanonicalName
import LayerStencil.Proofs.CommandLine.FailedRun
import LayerStencil.Proofs.Template.InlineLoop
import LayerStencil.Proofs.Registry.TypeClosure
import LayerStencil.Proofs.Registry.MergedOptions
import LayerStencil.Proofs.Registry.SystemTypes
import LayerStencil.Proofs.Declarator.Spelling
import LayerStencil.Proofs.Declarator.Prototype
import LayerStencil.Proofs.Declarator.Printing
import LayerStencil.Proofs.Template.Transparency
import LayerStencil.Proofs.Template.Tallies
import LayerStencil.Proofs.Template.Runs
import LayerStencil.Proofs.Template.LineForm
import LayerStencil.Proofs.Condition.Comparison
import LayerStencil.Proofs.Template.FailedStep
import LayerStencil.Proofs.Template.TallyOrder
import LayerStencil.Proofs.Template.Innermost
import LayerStencil.Proofs.Model.Listing
import LayerStencil.Proofs.Pattern.NameList

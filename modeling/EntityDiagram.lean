import EntityDiagram.Text.Blank
import EntityDiagram.Text.Alphabetic
import EntityDiagram.Text.Printable
import EntityDiagram.Text.Quoted
import EntityDiagram.Schema.Token
import EntityDiagram.Schema.Trivia
import EntityDiagram.Schema.Token.Scanner
import EntityDiagram.Decimal.Notation
import EntityDiagram.Json.Basic
import EntityDiagram.Json.Writer
import EntityDiagram.Schema.Document
import EntityDiagram.Schema.Document.Reader
import EntityDiagram.Registry.Basic
import EntityDiagram.Relation.Basic
import EntityDiagram.Relation.Inference
import EntityDiagram.Placement.Angle
import EntityDiagram.Placement.Basic
import EntityDiagram.Placement.Random
import EntityDiagram.Placement.Ring
import EntityDiagram.Placement.Forces
import EntityDiagram.Diagram.Basic
import EntityDiagram.Diagram.Build
import EntityDiagram.Diagram.Export
import EntityDiagram.CommandLine
import EntityDiagram.Main
import EntityDiagram.Proofs.Schema.Document.Spelling
import EntityDiagram.Proofs.Registry.Annotation
import EntityDiagram.Proofs.Registry.Mention
import EntityDiagram.Proofs.Registry.Declaration
import EntityDiagram.Proofs.Registry.Document
import EntityDiagram.Proofs.Registry.Key
import EntityDiagram.Proofs.Registry.ForeignKey
import EntityDiagram.Proofs.Registry.Index
import EntityDiagram.Proofs.Relation.Id
import EntityDiagram.Proofs.Relation.Canonical
import EntityDiagram.Proofs.Relation.Collection
import EntityDiagram.Proofs.Relation.Justification
import EntityDiagram.Proofs.Relation.Retention
import EntityDiagram.Proofs.Relation.Order
import EntityDiagram.Proofs.Relation.SelfPair
import EntityDiagram.Proofs.Relation.Partner
import EntityDiagram.Proofs.Relation.Linking
import EntityDiagram.Proofs.Relation.Stability
import EntityDiagram.Proofs.Relation.Indexed
import EntityDiagram.Proofs.Relation.Malformed
import EntityDiagram.Proofs.Placement.Models
import EntityDiagram.Proofs.Placement.AtLeastOne
import EntityDiagram.Proofs.Placement.Springs
import EntityDiagram.Proofs.Placement.Range
import EntityDiagram.Proofs.Diagram.Handles
import EntityDiagram.Proofs.Diagram.HandleTable
import EntityDiagram.Proofs.Diagram.Edges
import EntityDiagram.Proofs.Diagram.Drawing
import EntityDiagram.Proofs.Diagram.Anchors
import EntityDiagram.Proofs.Diagram.Ends
import EntityDiagram.Proofs.Diagram.Comments
import EntityDiagram.Proofs.Schema.Document.Grammar
import EntityDiagram.Proofs.Schema.Document.Run
import EntityDiagram.Proofs.Schema.Document.Places
import EntityDiagram.Proofs.Schema.Document.ArgumentBreaks
import EntityDiagram.Proofs.Schema.Document.Soundness
import EntityDiagram.Proofs.Schema.Document.Derivation
import EntityDiagram.Proofs.Schema.Document.Prefix
import EntityDiagram.Proofs.Schema.Trivia
import EntityDiagram.Proofs.Schema.Token.Layout
import EntityDiagram.Proofs.Schema.Token.LineBreaks
import EntityDiagram.Proofs.Schema.Token.Unlined
import EntityDiagram.Proofs.Schema.Token.Progress
import EntityDiagram.Proofs.Schema.Token.Insertion
import EntityDiagram.Proofs.Schema.Document.Lines
import EntityDiagram.Proofs.Schema.Document.Rendering
import EntityDiagram.Proofs.Schema.Document.Rereading

import TypedStatement.Main
import TypedStatement.Proofs.Attribute.Agreement
import TypedStatement.Proofs.Classification.Checks
import TypedStatement.Proofs.Declarations.Emission
import TypedStatement.Proofs.Declarations.Order
import TypedStatement.Proofs.Diagnostic.Rendering
import TypedStatement.Proofs.Diagnostic.Shown
import TypedStatement.Proofs.Expansion.Query
import TypedStatement.Proofs.Expansion.Spelling
import TypedStatement.Proofs.Generator.Outcome
import TypedStatement.Proofs.Model.Concatenation
import TypedStatement.Proofs.Model.Placeholders
import TypedStatement.Proofs.Model.Quoted
import TypedStatement.Proofs.Run.Delivery
import TypedStatement.Proofs.Template.Tiling
import TypedStatement.Proofs.Template.Writing
import TypedStatement.Proofs.Expansion.Diagnostics
import TypedStatement.Proofs.Json.Reading
import TypedStatement.Proofs.Attribute.Acceptance
import TypedStatement.Proofs.Configuration.Decoding
import TypedStatement.Proofs.Configuration.Layers
import TypedStatement.Proofs.Configuration.Overrides
import TypedStatement.Proofs.Report.Lines

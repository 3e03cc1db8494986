import TwinSyntax.Main
import TwinSyntax.Tree.Compare
import TwinSyntax.Viewer.State
import TwinSyntax.Proofs.Composed
import TwinSyntax.Proofs.Loops
import TwinSyntax.Proofs.FirstFault
import TwinSyntax.Proofs.Frame
import TwinSyntax.Proofs.Phrases
import TwinSyntax.Proofs.Words
import TwinSyntax.Proofs.Viable
import TwinSyntax.Proofs.Path
import TwinSyntax.Proofs.Verdict
import TwinSyntax.Proofs.Soundness
import TwinSyntax.Proofs.Completeness
import TwinSyntax.Proofs.Ahead
import TwinSyntax.Proofs.Run
import TwinSyntax.Proofs.Acceptance
import TwinSyntax.Proofs.Lexemes
import TwinSyntax.Proofs.LeftmostError
import TwinSyntax.Proofs.SourceOrder
import TwinSyntax.Proofs.Rendering
import TwinSyntax.Proofs.Moments
import TwinSyntax.Proofs.Shapes
import TwinSyntax.Proofs.Places
import TwinSyntax.Proofs.Spelling
import TwinSyntax.Proofs.Lossless
import TwinSyntax.Proofs.Origins
import TwinSyntax.Proofs.Mirror
import TwinSyntax.Proofs.Embedding
import TwinSyntax.Proofs.History
import TwinSyntax.Proofs.Relocation
import TwinSyntax.Proofs.Likeness
import TwinSyntax.Proofs.Failures
import TwinSyntax.Proofs.Discipline
import TwinSyntax.Proofs.Diagnostics
import TwinSyntax.Proofs.Parallel
import TwinSyntax.Proofs.Isolation
import TwinSyntax.Proofs.LineBreaks
import TwinSyntax.Proofs.Statements
import TwinSyntax.Proofs.Joining
import TwinSyntax.Proofs.Concatenation
import TwinSyntax.Proofs.Wordwise
import TwinSyntax.Proofs.Lockstep
import TwinSyntax.Proofs.Layout
import TwinSyntax.Proofs.CarriageReturns
import TwinSyntax.Proofs.EndOfFile
import TwinSyntax.Proofs.Rounds
import TwinSyntax.Proofs.Levels
import TwinSyntax.Proofs.Consumption
import TwinSyntax.Proofs.Preorder
import TwinSyntax.Proofs.Viewing
import TwinSyntax.Proofs.Balance
import TwinSyntax.Proofs.Entrances
import TwinSyntax.Proofs.Numerals
import TwinSyntax.Proofs.Visibility
import TwinSyntax.Proofs.Copies
import TwinSyntax.Proofs.Legible
import TwinSyntax.Proofs.CompactForm
import TwinSyntax.Proofs.Outlines
import TwinSyntax.Proofs.Printing
import TwinSyntax.Proofs.Scrolling
import TwinSyntax.Proofs.Building
import TwinSyntax.Proofs.Linewise
import TwinSyntax.Proofs.Lineages
import TwinSyntax.Proofs.DrawnLines

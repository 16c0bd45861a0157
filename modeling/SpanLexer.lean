import SpanLexer.Session.Step
import SpanLexer.Proofs.Runs
import SpanLexer.Proofs.Combinators
import SpanLexer.Proofs.Contract
import SpanLexer.Proofs.Bounds
import SpanLexer.Proofs.Faults
import SpanLexer.Proofs.Termination
import SpanLexer.Proofs.Recognition
import SpanLexer.Proofs.Pairing
import SpanLexer.Proofs.Independence
import SpanLexer.Proofs.Interference
import SpanLexer.Proofs.Traces
import SpanLexer.Proofs.Interruption
import SpanLexer.Proofs.Safety
import SpanLexer.Proofs.Confinement
import SpanLexer.Proofs.Sessions
import SpanLexer.Proofs.Enclosure
import SpanLexer.Proofs.Lengths
import SpanLexer.Proofs.Rollback
import SpanLexer.Proofs.RecipeObservers
import SpanLexer.Proofs.Choices
import SpanLexer.Proofs.Repetition
import SpanLexer.Proofs.Building
import SpanLexer.Proofs.Composition
import SpanLexer.Proofs.RecipeLanguages
import SpanLexer.Proofs.Grouping
import SpanLexer.Proofs.RepetitionLaws
import SpanLexer.Proofs.Factoring
import SpanLexer.Proofs.Wrapping
import SpanLexer.Proofs.Readings
import SpanLexer.Proofs.Shortening

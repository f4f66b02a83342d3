import HttpTest.Main
import HttpTest.Value.Lookup
import HttpTest.Proofs.Pipeline.Order
import HttpTest.Proofs.Pipeline.Resolution
import HttpTest.Proofs.Pipeline.Exchange
import HttpTest.Proofs.Run.Evaluation
import HttpTest.Proofs.Run.Program
import HttpTest.Proofs.Run.Frames
import HttpTest.Proofs.Run.Nesting
import HttpTest.Proofs.Dictionary
import HttpTest.Proofs.Value.Structure
import HttpTest.Proofs.Value.Acceptance
import HttpTest.Proofs.Chain.BuiltIn
import HttpTest.Proofs.Chain.Calls
import HttpTest.Proofs.Value.Containment
import HttpTest.Proofs.Value.Reflexivity
import HttpTest.Proofs.Chain.Mirror
import HttpTest.Proofs.Chain.Offence
import HttpTest.Proofs.Result
import HttpTest.Proofs.Toml.Shape
import HttpTest.Proofs.Scenario.Document
import HttpTest.Proofs.Scenario.Resolution
import HttpTest.Proofs.Http.Header
import HttpTest.Proofs.Http.CanonicalName
import HttpTest.Proofs.Http.Response
import HttpTest.Proofs.Http.Request
import HttpTest.Proofs.Scenario.Request
import HttpTest.Proofs.Run.Invariant
import HttpTest.Proofs.Run.Description
import HttpTest.Proofs.Run.Effects
import HttpTest.Proofs.Run.Request
import HttpTest.Proofs.Value.Json
import HttpTest.Proofs.Run.Echo
import HttpTest.Proofs.Number.Denotation
import HttpTest.Proofs.Number.Nearest
import HttpTest.Proofs.Number.Numeral
import HttpTest.Proofs.Value.Number
import HttpTest.Proofs.Value.Compatibility
import HttpTest.Proofs.Value.Counterparts
import HttpTest.Proofs.Value.Equivalence
import HttpTest.Proofs.Value.Interchange
import HttpTest.Proofs.Path.Equality
import HttpTest.Proofs.Pipeline.Weakening
import HttpTest.Proofs.Run.Expectations
import HttpTest.Proofs.Http.Url
import HttpTest.Proofs.Run.Repetition
import HttpTest.Proofs.Scenario.Expectation
import HttpTest.Proofs.Text.Lines
import HttpTest.Proofs.Text.Difference
import HttpTest.Proofs.Value.Throughout
import HttpTest.Proofs.Value.Difference
import HttpTest.Proofs.Value.NormalForm
import HttpTest.Proofs.Value.Lookup
import HttpTest.Proofs.Run.Body
import HttpTest.Proofs.Text.Digits
import HttpTest.Proofs.Text.Decoding
import HttpTest.Proofs.Value.ScalarText
import HttpTest.Proofs.Value.Text
import HttpTest.Proofs.Run.Service
import HttpTest.Proofs.Scenario.Execution

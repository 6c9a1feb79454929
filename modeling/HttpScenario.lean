import HttpScenario.Json.Reader
import HttpScenario.Json.Writer
import HttpScenario.Json.Edit
import HttpScenario.Text.Blank
import HttpScenario.Text.Replace
import HttpScenario.Table
import HttpScenario.Text.Quoted
import HttpScenario.Files
import HttpScenario.Scenario.Record
import HttpScenario.Scenario.TestCase
import HttpScenario.Scenario.Load
import HttpScenario.Runner
import HttpScenario.Verify.Verdict
import HttpScenario.Http.Exchange
import HttpScenario.Settings.Toml
import HttpScenario.Proofs.Binary64.Written
import HttpScenario.Proofs.Files
import HttpScenario.Proofs.Json.Alike
import HttpScenario.Proofs.Json.Assignment
import HttpScenario.Proofs.Json.Change
import HttpScenario.Proofs.Json.Copies
import HttpScenario.Proofs.Json.Denotation
import HttpScenario.Proofs.Json.Divergence
import HttpScenario.Proofs.Json.Elements
import HttpScenario.Proofs.Json.Erasure
import HttpScenario.Proofs.Json.Independence
import HttpScenario.Proofs.Json.Layout
import HttpScenario.Proofs.Json.Members
import HttpScenario.Proofs.Json.NumberReadBack
import HttpScenario.Proofs.Json.NumberText
import HttpScenario.Proofs.Json.PathLaws
import HttpScenario.Proofs.Json.PathText
import HttpScenario.Proofs.Json.Place
import HttpScenario.Proofs.Json.ReadBack
import HttpScenario.Proofs.Json.Reading
import HttpScenario.Proofs.Json.Removal
import HttpScenario.Proofs.Json.Rereading
import HttpScenario.Proofs.Json.Sameness
import HttpScenario.Proofs.Json.Size
import HttpScenario.Proofs.Json.Strictness
import HttpScenario.Proofs.Json.StringText
import HttpScenario.Proofs.Json.WellFormed
import HttpScenario.Proofs.Results
import HttpScenario.Proofs.Scenario.Decoding
import HttpScenario.Proofs.Scenario.EditOrder
import HttpScenario.Proofs.Scenario.HealCall
import HttpScenario.Proofs.Scenario.HealedFile
import HttpScenario.Proofs.Scenario.HealedRecord
import HttpScenario.Proofs.Scenario.HealingRun
import HttpScenario.Proofs.Scenario.HeaderEdits
import HttpScenario.Proofs.Scenario.ObjectEdits
import HttpScenario.Proofs.Scenario.Reload
import HttpScenario.Proofs.Scenario.Rendering
import HttpScenario.Proofs.Scenario.Rewrite
import HttpScenario.Proofs.Scenario.Slots
import HttpScenario.Proofs.Scenario.StoredBody
import HttpScenario.Proofs.Table
import HttpScenario.Proofs.Text.Break
import HttpScenario.Proofs.Text.Digits
import HttpScenario.Proofs.Text.Replace
import HttpScenario.Proofs.Text.Utf8
import HttpScenario.Proofs.Url.Joining
import HttpScenario.Proofs.Verify.Comparison
import HttpScenario.Proofs.Verify.Convergence
import HttpScenario.Proofs.Verify.Effects
import HttpScenario.Proofs.Verify.ExcludedElements
import HttpScenario.Proofs.Verify.Exclusion
import HttpScenario.Proofs.Verify.KeptText
import HttpScenario.Proofs.Verify.PathFaults
import HttpScenario.Proofs.Verify.Redaction
import HttpScenario.Proofs.Verify.Verdict
import HttpScenario.Proofs.Work
import HttpScenario.Proofs.Scenario.Healable
import HttpScenario.Proofs.Runner.UrlPieces
import HttpScenario.Proofs.Http.CookieLine
import HttpScenario.Proofs.Http.MediaType
import HttpScenario.Proofs.Http.Method
import HttpScenario.Proofs.Http.ReceivedHeaders
import HttpScenario.Proofs.Http.SentHeaders
import HttpScenario.Proofs.Runner.Sending
import HttpScenario.Proofs.Runner.Headers
import HttpScenario.Proofs.Scenario.Unfilled
import HttpScenario.Proofs.Scenario.HealedDecoding

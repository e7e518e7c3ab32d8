import FormPublisher.Main
import FormPublisher.Web.Server
import FormPublisher.Proofs.Form.Numbering
import FormPublisher.Proofs.Form.Layout
import FormPublisher.Proofs.Form.Gating
import FormPublisher.Proofs.Json.Value
import FormPublisher.Proofs.Json.Reader
import FormPublisher.Proofs.Json.Lexing
import FormPublisher.Proofs.Json.RoundTrip
import FormPublisher.Proofs.Provider.Exchange
import FormPublisher.Proofs.Request.Update
import FormPublisher.Proofs.Form.Encoding
import FormPublisher.Proofs.Form.References
import FormPublisher.Proofs.Form.Reading
import FormPublisher.Proofs.Publish.Steps
import FormPublisher.Proofs.Publish.Update
import FormPublisher.Proofs.Publish.Relevance
import FormPublisher.Proofs.Publish.Conditions
import FormPublisher.Proofs.Publish.Questions
import FormPublisher.Proofs.Publish.Endings
import FormPublisher.Proofs.Provider.Progress
import FormPublisher.Proofs.Publish.Keys
import FormPublisher.Proofs.Publish.Rejections
import FormPublisher.Proofs.Publish.Creation
import FormPublisher.Proofs.Command.Preview
import FormPublisher.Proofs.Web.Answers
import FormPublisher.Proofs.Publish.Stopping
import FormPublisher.Proofs.Publish.Rekeying
import FormPublisher.Proofs.Publish.Bodies
import FormPublisher.Proofs.Request.Condition
import FormPublisher.Proofs.Publish.Derived
import FormPublisher.Proofs.Request.Shape
import FormPublisher.Proofs.Form.Acceptance
import FormPublisher.Proofs.Json.Writable
import FormPublisher.Proofs.Form.Identifiers
import FormPublisher.Proofs.Form.Properties
import FormPublisher.Proofs.Form.Shift
import FormPublisher.Proofs.Form.Derivation
import FormPublisher.Proofs.Form.Names
import FormPublisher.Proofs.Provider.Targets
import FormPublisher.Proofs.Number.Text
import FormPublisher.Proofs.Text.Quoted
import FormPublisher.Proofs.Value.Calendar
import FormPublisher.Proofs.Value.Spelling
import FormPublisher.Proofs.Provider.Fields
import FormPublisher.Proofs.Value.Proper
import FormPublisher.Proofs.Yaml.Literal
import FormPublisher.Proofs.Yaml.Object
import FormPublisher.Proofs.Yaml.Meaning
import FormPublisher.Proofs.File.Load
import FormPublisher.Proofs.Form.Objects
import FormPublisher.Proofs.Provider.Methods
import FormPublisher.Proofs.Request.Acceptance
import FormPublisher.Proofs.Json.Printable
import FormPublisher.Proofs.Provider.FieldText
import FormPublisher.Proofs.Provider.Numbering
import FormPublisher.Proofs.Text.Utf8
import FormPublisher.Proofs.Web.Routing
import FormPublisher.Proofs.Json.Encoding
import FormPublisher.Proofs.Json.Encoding
import FormPublisher.Proofs.File.LineEnds
import FormPublisher.Proofs.Json.Flaws
import FormPublisher.Proofs.Command.Loading

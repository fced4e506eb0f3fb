import EventDelivery.Action.Basic
import EventDelivery.Action.Definition
import EventDelivery.Action.Execute
import EventDelivery.Action.Input
import EventDelivery.Action.Program
import EventDelivery.Action.Result
import EventDelivery.Action.Subscriber
import EventDelivery.Address.International
import EventDelivery.Address.Name
import EventDelivery.Address.Numeric
import EventDelivery.Assoc
import EventDelivery.Character.Category
import EventDelivery.Character.Composition
import EventDelivery.Character.Direction
import EventDelivery.Character.Folding
import EventDelivery.Character.Property
import EventDelivery.Character.Runs
import EventDelivery.Character.Script
import EventDelivery.Character.Sequences
import EventDelivery.CommandLine.Arguments
import EventDelivery.CommandLine.Failure
import EventDelivery.CommandLine.Run
import EventDelivery.Context
import EventDelivery.Decimal.Double
import EventDelivery.Decimal.Shortest
import EventDelivery.Error
import EventDelivery.Field.Basic
import EventDelivery.Field.Schema
import EventDelivery.Field.Wire
import EventDelivery.Http.Client
import EventDelivery.Http.Message
import EventDelivery.Http.Options
import EventDelivery.Http.Response
import EventDelivery.Http.Status
import EventDelivery.Http.Transport
import EventDelivery.Json.Basic
import EventDelivery.Json.Document
import EventDelivery.Json.Printer
import EventDelivery.Json.Reader
import EventDelivery.Main
import EventDelivery.Mapping.Fault
import EventDelivery.Mapping.Path
import EventDelivery.Mapping.Resolve
import EventDelivery.Mapping.Template
import EventDelivery.Pattern.Basic
import EventDelivery.Pattern.Class
import EventDelivery.Pattern.Escape
import EventDelivery.Pattern.Expression
import EventDelivery.Pattern.Grammar
import EventDelivery.Pattern.Machine
import EventDelivery.Pattern.Memory
import EventDelivery.Pattern.Positions
import EventDelivery.Pattern.Preference
import EventDelivery.Pattern.Program
import EventDelivery.Pattern.Reader
import EventDelivery.Pattern.Traits
import EventDelivery.Proofs.AssocLookup
import EventDelivery.Proofs.BatchAgreement
import EventDelivery.Proofs.BatchMapping
import EventDelivery.Proofs.CallTrace
import EventDelivery.Proofs.ChoiceDecoding
import EventDelivery.Proofs.CleanedValidity
import EventDelivery.Proofs.CleaningNormalForm
import EventDelivery.Proofs.ConfigLoading
import EventDelivery.Proofs.DefaultMapping
import EventDelivery.Proofs.DeliveryGate
import EventDelivery.Proofs.DryRun
import EventDelivery.Proofs.EventReports
import EventDelivery.Proofs.Execution
import EventDelivery.Proofs.FieldAcceptance
import EventDelivery.Proofs.FieldCleaning
import EventDelivery.Proofs.FieldCompilation
import EventDelivery.Proofs.FieldDecoding
import EventDelivery.Proofs.FieldKeywords
import EventDelivery.Proofs.FieldRereading
import EventDelivery.Proofs.FieldTree
import EventDelivery.Proofs.FormPairs
import EventDelivery.Proofs.HookGate
import EventDelivery.Proofs.HookPipeline
import EventDelivery.Proofs.HostText
import EventDelivery.Proofs.JsonEquality
import EventDelivery.Proofs.JsonLines
import EventDelivery.Proofs.KeywordSemantics
import EventDelivery.Proofs.MappingForms
import EventDelivery.Proofs.MappingReferences
import EventDelivery.Proofs.MappingSafety
import EventDelivery.Proofs.NullableFields
import EventDelivery.Proofs.OctetOrder
import EventDelivery.Proofs.OctetReading
import EventDelivery.Proofs.OctetSearch
import EventDelivery.Proofs.OptionLayers
import EventDelivery.Proofs.PartialEvaluation
import EventDelivery.Proofs.PathGrammar
import EventDelivery.Proofs.PathPrinting
import EventDelivery.Proofs.PathScan
import EventDelivery.Proofs.QueryReading
import EventDelivery.Proofs.RecordReading
import EventDelivery.Proofs.RequestAnswers
import EventDelivery.Proofs.RequestBody
import EventDelivery.Proofs.RequestHeaders
import EventDelivery.Proofs.RequestPreparation
import EventDelivery.Proofs.RequestRecord
import EventDelivery.Proofs.ResponseAccounting
import EventDelivery.Proofs.ScalarReading
import EventDelivery.Proofs.SchemaAdmission
import EventDelivery.Proofs.ScriptConsumption
import EventDelivery.Proofs.SearchParameters
import EventDelivery.Proofs.TemplateScan
import EventDelivery.Proofs.TemplateTokens
import EventDelivery.Proofs.TextParts
import EventDelivery.Proofs.UrlSections
import EventDelivery.Proofs.ViolationPlaces
import EventDelivery.Proofs.WebhookHeaders
import EventDelivery.Proofs.WireRoundTrip
import EventDelivery.RunConfig.Basic
import EventDelivery.RunConfig.Delivery
import EventDelivery.RunConfig.Fault
import EventDelivery.RunConfig.Load
import EventDelivery.RunConfig.Schema
import EventDelivery.RunConfig.Text
import EventDelivery.Schema.Basic
import EventDelivery.Schema.Check
import EventDelivery.Schema.Clean
import EventDelivery.Schema.Compile
import EventDelivery.Schema.Format.Locator
import EventDelivery.Schema.Format.Moment
import EventDelivery.Schema.Link
import EventDelivery.Schema.Reference.Draft
import EventDelivery.Schema.Reference.Library
import EventDelivery.Schema.Reference.Subschema
import EventDelivery.Schema.Reference.Target
import EventDelivery.Schema.Validate
import EventDelivery.Schema.Violation
import EventDelivery.Text.Base64
import EventDelivery.Text.Blank
import EventDelivery.Text.Characters
import EventDelivery.Text.Quoted
import EventDelivery.Text.Unsigned
import EventDelivery.Text.Utf8
import EventDelivery.Trace
import EventDelivery.Url.Basic
import EventDelivery.Url.Domain
import EventDelivery.Url.Host
import EventDelivery.Url.NameMapping
import EventDelivery.Url.Parse
import EventDelivery.Url.Percent
import EventDelivery.Url.Punycode
import EventDelivery.Webhook
import EventDelivery.Wire.Fault
import EventDelivery.Wire.Record
import EventDelivery.Wire.Scalar

import AlertRules.Cache.Keyspace
import AlertRules.Context
import AlertRules.Detection
import AlertRules.LogFilter
import AlertRules.Memory
import AlertRules.Settings.Loading
import AlertRules.Proofs.Double.Shortest
import AlertRules.Proofs.Double.Nearest
import AlertRules.Proofs.Comparison.Number
import AlertRules.Proofs.Json.Lexing
import AlertRules.Proofs.Json.Numeral
import AlertRules.Proofs.Json.Rereading
import AlertRules.Proofs.Json.RoundTrip
import AlertRules.Proofs.Comparison.Symmetry
import AlertRules.Proofs.Comparison.Transitivity
import AlertRules.Proofs.Comparison.Integers
import AlertRules.Proofs.Validation.WellFormed
import AlertRules.Proofs.Validation.FirstFault
import AlertRules.Proofs.Evaluation.Leaves
import AlertRules.Proofs.Evaluation.FieldPath
import AlertRules.Proofs.Evaluation.DottedNames
import AlertRules.Proofs.Evaluation.Attributes
import AlertRules.Proofs.Codec.Uuid
import AlertRules.Proofs.Codec.Condition
import AlertRules.Proofs.Codec.Timestamp
import AlertRules.Proofs.Codec.Rule
import AlertRules.Proofs.Codec.Outline
import AlertRules.Proofs.Program
import AlertRules.Proofs.Repository.Contract
import AlertRules.Proofs.Repository.Run
import AlertRules.Proofs.Repository.Entry
import AlertRules.Proofs.Repository.Soundness
import AlertRules.Proofs.Repository.Parts
import AlertRules.Proofs.Repository.Noting
import AlertRules.Proofs.Repository.Approval
import AlertRules.Proofs.Repository.Reading
import AlertRules.Proofs.Repository.Writing
import AlertRules.Proofs.Repository.Transparency
import AlertRules.Proofs.Repository.Interruption
import AlertRules.Proofs.Codec.Message
import AlertRules.Proofs.Codec.Exchange
import AlertRules.Proofs.Database.Column
import AlertRules.Proofs.Database.RuleRow
import AlertRules.Proofs.Repository.Warming
import AlertRules.Proofs.Engine
import AlertRules.Proofs.Engine.Turns
import AlertRules.Proofs.Service.Errand
import AlertRules.Proofs.Repository.Slot
import AlertRules.Proofs.Repository.System
import AlertRules.Proofs.Repository.Interleaving
import AlertRules.Proofs.Service.Trial
import AlertRules.Proofs.Service.Validity
import AlertRules.Proofs.Repository.Listing
import AlertRules.Proofs.Repository.Resolution
import AlertRules.Proofs.Repository.Provenance
import AlertRules.Proofs.Repository.Recall
import AlertRules.Proofs.Service.Failure
import AlertRules.Proofs.Cache.Counter
import AlertRules.Proofs.Database.Transaction
import AlertRules.Proofs.Metrics
import AlertRules.Proofs.Repository.Lookups
import AlertRules.Proofs.Service.Calls
import AlertRules.Proofs.Service.Accounting
import AlertRules.Proofs.Toml.Distinct
import AlertRules.Proofs.Settings.Merging
import AlertRules.Proofs.Settings.Leaves
import AlertRules.Proofs.Settings.Layering
import AlertRules.Proofs.Settings.Sources

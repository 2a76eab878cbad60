import UnitCheck.Main
import UnitCheck.Service.Server
import UnitCheck.Proofs.Diagnostic.Changes
import UnitCheck.Proofs.Form.Record
import UnitCheck.Proofs.Form.RoundTrip
import UnitCheck.Proofs.Json.Line
import UnitCheck.Proofs.Json.Reading
import UnitCheck.Proofs.Json.Text
import UnitCheck.Proofs.Matching.Counterpart
import UnitCheck.Proofs.Matching.Dimension
import UnitCheck.Proofs.Matching.Factor
import UnitCheck.Proofs.Matching.Identity
import UnitCheck.Proofs.Matching.Locality
import UnitCheck.Proofs.Matching.Order
import UnitCheck.Proofs.Matching.Pairing
import UnitCheck.Proofs.Number.Binary64
import UnitCheck.Proofs.Number.Error
import UnitCheck.Proofs.Number.Numeral
import UnitCheck.Proofs.Number.Packing
import UnitCheck.Proofs.Number.Range
import UnitCheck.Proofs.Number.Rounding
import UnitCheck.Proofs.Number.Written
import UnitCheck.Proofs.Outcome
import UnitCheck.Proofs.Part.Validation
import UnitCheck.Proofs.Preset.Growth
import UnitCheck.Proofs.Preset.Loading
import UnitCheck.Proofs.Preset.Reachability
import UnitCheck.Proofs.Preset.Registration
import UnitCheck.Proofs.Rules.Classes
import UnitCheck.Proofs.Rules.Exchange
import UnitCheck.Proofs.Rules.Grammar
import UnitCheck.Proofs.Rules.Lexicon
import UnitCheck.Proofs.Rules.Meaning
import UnitCheck.Proofs.Rules.Refusal
import UnitCheck.Proofs.Rules.Renaming
import UnitCheck.Proofs.Rules.Reordering
import UnitCheck.Proofs.Rules.Scales
import UnitCheck.Proofs.Rules.Sequence
import UnitCheck.Proofs.Rules.Usable
import UnitCheck.Proofs.Service.Agreement
import UnitCheck.Proofs.Service.Faults
import UnitCheck.Proofs.Service.History
import UnitCheck.Proofs.Service.Replies
import UnitCheck.Proofs.Session.Cache
import UnitCheck.Proofs.Session.FirstTarget
import UnitCheck.Proofs.Session.Layers
import UnitCheck.Proofs.Session.Unrelated
import UnitCheck.Proofs.Session.Verdicts
import UnitCheck.Proofs.Text.Trim
import UnitCheck.Proofs.Unit.Composition
import UnitCheck.Proofs.Unit.Grammar
import UnitCheck.Proofs.Unit.Parsing
import UnitCheck.Proofs.Unit.Spacing
import UnitCheck.Proofs.Unit.Tokens
import UnitCheck.Proofs.Unit.Targets
import UnitCheck.Proofs.Unit.Writing

import StatementGate.Client.Exchange
import StatementGate.Main
import StatementGate.Gateway.Http
import StatementGate.Rehearsal.Files
import StatementGate.Rehearsal.Script
import StatementGate.Text.Align
import StatementGate.Proofs.Gateway.Gating
import StatementGate.Proofs.Lookup
import StatementGate.Proofs.Gateway.Course
import StatementGate.Proofs.Sanitization.Masking
import StatementGate.Proofs.Gateway.Disclosure
import StatementGate.Proofs.Query.Placeholders
import StatementGate.Proofs.Query.Conditions
import StatementGate.Proofs.Query.Bindings
import StatementGate.Proofs.Number.Decimal
import StatementGate.Proofs.Calendar.Text
import StatementGate.Proofs.Wire.Conformance
import StatementGate.Proofs.Wire.Paths
import StatementGate.Proofs.Wire.RoundTrip
import StatementGate.Proofs.Query.Outline
import StatementGate.Proofs.Descriptor.Grammar
import StatementGate.Proofs.Descriptor.Reading
import StatementGate.Proofs.Number.Binary64
import StatementGate.Proofs.Wire.Inhabits
import StatementGate.Proofs.Query.Lexemes
import StatementGate.Proofs.Query.Reader
import StatementGate.Proofs.Query.Meaning
import StatementGate.Proofs.Query.Reading
import StatementGate.Proofs.Descriptor.Canonical
import StatementGate.Proofs.Classification.Statements
import StatementGate.Proofs.Gateway.Threads
import StatementGate.Proofs.Gateway.Trails
import StatementGate.Proofs.Gateway.Values
import StatementGate.Proofs.Wire.Registry
import StatementGate.Proofs.Wire.Resolution
import StatementGate.Proofs.Wire.Rereading
import StatementGate.Proofs.Json.Members
import StatementGate.Proofs.Envelope.RoundTrip
import StatementGate.Proofs.Sanitization.Exactness
import StatementGate.Proofs.Wire.Conversions
import StatementGate.Proofs.Approval.Sitting
import StatementGate.Proofs.Approval.Delivery
import StatementGate.Proofs.Query.Grammatical
import StatementGate.Proofs.Query.Mutations
import StatementGate.Proofs.Wire.Absence
import StatementGate.Proofs.Wire.Rewriting
import StatementGate.Proofs.Wire.Rows
import StatementGate.Proofs.Wire.ScalarTexts
import StatementGate.Proofs.Wire.Positions
import StatementGate.Proofs.Wire.Writing
import StatementGate.Proofs.Wire.Registration
import StatementGate.Proofs.Wire.Refusals
import StatementGate.Proofs.Wire.Arrival
import StatementGate.Proofs.Settings.Installation
import StatementGate.Proofs.Settings.ColumnMasks
import StatementGate.Proofs.Gateway.Lifecycle
import StatementGate.Proofs.Store.Parameters
import StatementGate.Proofs.Sanitization.Idempotence
import StatementGate.Proofs.Client.Fetching
import StatementGate.Proofs.Store.Nulls
import StatementGate.Proofs.Approval.Prompt
import StatementGate.Proofs.Query.ListTests
import StatementGate.Proofs.Wire.Misfits
import StatementGate.Proofs.Descriptor.Diagnostics
import StatementGate.Proofs.Descriptor.Diagnostics

import JsxTagger.Component.Analysis
import JsxTagger.Main
import JsxTagger.Progress.Display
import JsxTagger.Proofs.Component.Markup
import JsxTagger.Proofs.Instrument.Coverage
import JsxTagger.Proofs.Instrument.Idempotence
import JsxTagger.Proofs.Instrument.Locators
import JsxTagger.Proofs.Instrument.Ownership
import JsxTagger.Proofs.Instrument.References
import JsxTagger.Proofs.Edit.Application
import JsxTagger.Proofs.Syntax.Enclosure
import JsxTagger.Proofs.Instrument.Functions
import JsxTagger.Proofs.Instrument.Applicable
import JsxTagger.Proofs.Files.Access
import JsxTagger.Proofs.Instrument.Additions
import JsxTagger.Proofs.Run.State
import JsxTagger.Proofs.Emit.File
import JsxTagger.Proofs.Emit.Unchanged
import JsxTagger.Proofs.Json.RoundTrip
import JsxTagger.Proofs.Inventory.Document
import JsxTagger.Proofs.Inventory.Scanned
import JsxTagger.Proofs.Emit.Mirror
import JsxTagger.Proofs.Files.Effects
import JsxTagger.Proofs.Emit.Sources
import JsxTagger.Proofs.Instrument.Completion
import JsxTagger.Proofs.Files.Refusals
import JsxTagger.Proofs.Files.Agreement
import JsxTagger.Proofs.Emit.Returns
import JsxTagger.Emit.Pool
import JsxTagger.Proofs.Emit.Independence
import JsxTagger.Proofs.Emit.Workers
import JsxTagger.Proofs.Emit.Courses
import JsxTagger.Proofs.Emit.Opening
import JsxTagger.Proofs.Text.Order
import JsxTagger.Proofs.Emit.Schedules
import JsxTagger.Proofs.Emit.Cancellation
import JsxTagger.Proofs.Run.Context
import JsxTagger.Proofs.Settings.Build
import JsxTagger.Proofs.Inventory.Entered
import JsxTagger.Proofs.Inventory.Survey
import JsxTagger.Proofs.Inventory.Exact
import JsxTagger.Proofs.Emit.Twins
import JsxTagger.Proofs.Inventory.Storage
import JsxTagger.Proofs.Run.Reuse
import JsxTagger.Proofs.Edit.Sequential
import JsxTagger.Proofs.Instrument.Repetition
import JsxTagger.Proofs.Instrument.Fallback
import JsxTagger.Proofs.Inventory.Foreign
import JsxTagger.Proofs.Files.Failures
import JsxTagger.Proofs.Instrument.Permutation
import JsxTagger.Proofs.Component.Rearrangement
import JsxTagger.Proofs.Component.Unnoticed
import JsxTagger.Proofs.Component.Listing
import JsxTagger.Proofs.Inventory.Traversals
import JsxTagger.Proofs.Log.Naming
import JsxTagger.Proofs.Settings.Usable
import JsxTagger.Proofs.Report.Summary
import JsxTagger.Proofs.Syntax.Walk
import JsxTagger.Proofs.Syntax.FirstError

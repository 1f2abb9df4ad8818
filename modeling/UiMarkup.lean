import UiMarkup.Text.Shown
import UiMarkup.Text.WordChar
import UiMarkup.Text.Lowercase
import UiMarkup.Number.Shortest
import UiMarkup.Number.Decimal
import UiMarkup.Document.Reader
import UiMarkup.Document.Writer
import UiMarkup.Document.Value
import UiMarkup.Toml.Reader
import UiMarkup.Observer.Emission
import UiMarkup.Observer.Property
import UiMarkup.Items.Operation
import UiMarkup.Items.Building
import UiMarkup.Items.File
import UiMarkup.Items.Shown
import UiMarkup.Control.Lifecycle
import UiMarkup.Control.Window
import UiMarkup.Screen
import UiMarkup.Proofs.Text.Lowercase
import UiMarkup.Proofs.Text.WordChar
import UiMarkup.Proofs.Document.Lines
import UiMarkup.Proofs.Document.Grammar
import UiMarkup.Proofs.Document.RoundTrip
import UiMarkup.Proofs.Document.Writable
import UiMarkup.Proofs.Document.Layout
import UiMarkup.Proofs.Document.LineEnds
import UiMarkup.Proofs.Document.Padding
import UiMarkup.Proofs.Document.Faults
import UiMarkup.Proofs.Document.Values
import UiMarkup.Proofs.Document.Refusals
import UiMarkup.Proofs.Document.Reports
import UiMarkup.Proofs.Control.Schema
import UiMarkup.Proofs.Control.Acceptance
import UiMarkup.Proofs.Control.References
import UiMarkup.Proofs.Control.Rearrangement
import UiMarkup.Proofs.Control.Roles
import UiMarkup.Proofs.Control.Violations
import UiMarkup.Proofs.Control.Measures
import UiMarkup.Proofs.Control.Recording
import UiMarkup.Proofs.Control.Window
import UiMarkup.Proofs.Control.Slots
import UiMarkup.Proofs.Control.Lifecycle
import UiMarkup.Proofs.Items.Group
import UiMarkup.Proofs.Items.Schema
import UiMarkup.Proofs.Items.Declaration
import UiMarkup.Proofs.Items.Context
import UiMarkup.Proofs.Items.Dialects
import UiMarkup.Proofs.Items.Invariant
import UiMarkup.Proofs.Items.Building
import UiMarkup.Proofs.Items.LetterCase
import UiMarkup.Proofs.Items.Paths
import UiMarkup.Proofs.Items.OptionNames
import UiMarkup.Proofs.Items.Places
import UiMarkup.Proofs.Items.Effects
import UiMarkup.Proofs.Items.Watched
import UiMarkup.Proofs.Items.Notification
import UiMarkup.Proofs.Items.Reassignment
import UiMarkup.Proofs.Items.Isolation
import UiMarkup.Proofs.Observer.Arena
import UiMarkup.Proofs.Observer.Chronicle
import UiMarkup.Proofs.Observer.Quiet
import UiMarkup.Proofs.Observer.Excerpt
import UiMarkup.Proofs.Observer.Roster
import UiMarkup.Proofs.Observer.Snapshot
import UiMarkup.Proofs.Observer.Delivery

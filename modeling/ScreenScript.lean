import ScreenScript.Json.Writer
import ScreenScript.Model
import ScreenScript.Proofs.Action.Shape
import ScreenScript.Proofs.Action.Written
import ScreenScript.Proofs.Channel.Consumers
import ScreenScript.Proofs.Channel.Pending
import ScreenScript.Proofs.Channel.SingleConsumer
import ScreenScript.Proofs.Document.Sources
import ScreenScript.Proofs.Execution.Accounting
import ScreenScript.Proofs.Execution.Appending
import ScreenScript.Proofs.Execution.Independence
import ScreenScript.Proofs.Execution.KeyOrder
import ScreenScript.Proofs.Execution.Sending
import ScreenScript.Proofs.Execution.Sequencing
import ScreenScript.Proofs.Expression.Interpolation
import ScreenScript.Proofs.Expression.Reads
import ScreenScript.Proofs.Navigation.Brackets
import ScreenScript.Proofs.Navigation.History
import ScreenScript.Proofs.Notification.Change
import ScreenScript.Proofs.Notification.Ownership
import ScreenScript.Proofs.Notification.Reentrancy
import ScreenScript.Proofs.Path.Algebra
import ScreenScript.Proofs.Path.Composition
import ScreenScript.Proofs.Path.KeyOrder
import ScreenScript.Proofs.Path.ReadAfterWrite
import ScreenScript.Proofs.Rendering.Binding
import ScreenScript.Proofs.Rendering.Nesting
import ScreenScript.Proofs.Rendering.Rows
import ScreenScript.Proofs.Rendering.Seen
import ScreenScript.Proofs.Schema.ScreenSpellings
import ScreenScript.Proofs.Schema.Telling
import ScreenScript.Proofs.Scope.Births
import ScreenScript.Proofs.Scope.Isolation
import ScreenScript.Proofs.Session.Appearance
import ScreenScript.Proofs.Session.CurrentView
import ScreenScript.Proofs.Session.FirstScreen
import ScreenScript.Proofs.Session.Rest
import ScreenScript.Proofs.Session.Showing
import ScreenScript.Proofs.Session.Starting
import ScreenScript.Proofs.Session.Termination
import ScreenScript.Proofs.Settings.LineEnds
import ScreenScript.Proofs.Settings.Loading
import ScreenScript.Scenario.Play
import ScreenScript.Settings.Load

import Discourse.Attribution.Reading
import Discourse.Description.Reading
import Discourse.Interpreter.Unconfigured
import Discourse.Main
import Discourse.Proofs.Attribution.Growth
import Discourse.Proofs.Attribution.Joining
import Discourse.Proofs.Attribution.Saturation
import Discourse.Proofs.Hall.Challenge
import Discourse.Proofs.Hall.Names
import Discourse.Proofs.Hall.RoundTrip
import Discourse.Proofs.Interpreter.Margins
import Discourse.Proofs.Interpreter.Retraction
import Discourse.Proofs.Interpreter.Rules
import Discourse.Proofs.Interpreter.Speech
import Discourse.Proofs.Interpreter.Standing
import Discourse.Proofs.Interpreter.Transcript
import Discourse.Proofs.Refusal
import Discourse.Proofs.Sessions.History
import Discourse.Proofs.Snapshot.Normal
import Discourse.Proofs.Web.Alone
import Discourse.Proofs.Web.Answers
import Discourse.Proofs.Web.Pages
import Discourse.Proofs.Web.Undisturbed
import Discourse.Shelf
import Discourse.Proofs.Closure.Calls
import Discourse.Proofs.Text.Replacement
import Discourse.Proofs.Listing.Lines
import Discourse.Proofs.Text.Markup
import Discourse.Proofs.Web.Markup
import Discourse.Proofs.Interpreter.Leaving
import Discourse.Proofs.Terminal
import Discourse.Proofs.OrderedSet.Algebra
import Discourse.Proofs.Closure.Completion
import Discourse.Proofs.Value.Comparison

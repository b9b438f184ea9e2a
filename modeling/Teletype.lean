import Teletype.Main
import Teletype.Proofs.Client.Settings
import Teletype.Proofs.Clusters.Canonical
import Teletype.Proofs.Color.Spec
import Teletype.Proofs.Config.Grids
import Teletype.Proofs.Control.Grammar
import Teletype.Proofs.Control.Images
import Teletype.Proofs.Control.Limits
import Teletype.Proofs.Control.Strings
import Teletype.Proofs.Control.Text
import Teletype.Proofs.Grid.Jumps
import Teletype.Proofs.Grid.LeadingResize
import Teletype.Proofs.Grid.Prompts
import Teletype.Proofs.Grid.RoundTrip
import Teletype.Proofs.Grid.Scrolling
import Teletype.Proofs.Grid.Surgery
import Teletype.Proofs.Grid.Words
import Teletype.Proofs.Machine.Drive
import Teletype.Proofs.Rendition.Groups
import Teletype.Proofs.Request.Codec
import Teletype.Proofs.Schedule.Output
import Teletype.Proofs.Session.Cursor
import Teletype.Proofs.Session.Delivery
import Teletype.Proofs.Session.Relay
import Teletype.Proofs.Session.Wait
import Teletype.Proofs.Terminal.Capabilities
import Teletype.Proofs.Terminal.ColorAnswer
import Teletype.Proofs.Terminal.Cut
import Teletype.Proofs.Terminal.Deferred
import Teletype.Proofs.Terminal.Isolated
import Teletype.Proofs.Terminal.Position
import Teletype.Proofs.Terminal.Printing
import Teletype.Proofs.Terminal.Renewal
import Teletype.Proofs.Terminal.Repaint
import Teletype.Proofs.Terminal.Replies
import Teletype.Proofs.Terminal.Retyping
import Teletype.Proofs.Terminal.SavedModes
import Teletype.Proofs.Terminal.Typing
import Teletype.Selection
import Teletype.Server
import Teletype.Sink.Pipe
import Teletype.Sink.Relay
import Teletype.Socket

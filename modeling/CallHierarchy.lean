import CallHierarchy.Client.Scripted
import CallHierarchy.Main
import CallHierarchy.Proofs.Client.Pending
import CallHierarchy.Proofs.Client.Reading
import CallHierarchy.Proofs.Client.Routing
import CallHierarchy.Proofs.Client.Simulation
import CallHierarchy.Proofs.Source.Function
import CallHierarchy.Proofs.Tree.Cycle
import CallHierarchy.Proofs.Tree.Depth
import CallHierarchy.Proofs.Source.CallGraph
import CallHierarchy.Proofs.Json.Canonical
import CallHierarchy.Proofs.MockServer.Items
import CallHierarchy.Proofs.Source.Lookup
import CallHierarchy.Proofs.MockServer.Intake
import CallHierarchy.Proofs.Client.Exchange
import CallHierarchy.Proofs.MockServer.Answers
import CallHierarchy.Proofs.Wire.Size
import CallHierarchy.Proofs.MockServer.Session
import CallHierarchy.Proofs.MockServer.CallTree
import CallHierarchy.Proofs.MockServer.Transcript
import CallHierarchy.Proofs.Tree.Tour
import CallHierarchy.Proofs.Client.Turns
import CallHierarchy.Proofs.Command.LifeCycle
import CallHierarchy.Proofs.Wire.Accounting
import CallHierarchy.Proofs.Wire.Bounds
import CallHierarchy.Proofs.Client.Unreadable
import CallHierarchy.Proofs.Item.Kept
import CallHierarchy.Proofs.Tree.Returned
import CallHierarchy.Proofs.Wire.Agreement
import CallHierarchy.Proofs.Client.Requests
import CallHierarchy.Proofs.Source.Documents
import CallHierarchy.Proofs.Source.Groups
import CallHierarchy.Proofs.MockServer.Neighbours
import CallHierarchy.Proofs.Text.Bytes
import CallHierarchy.Proofs.Source.Calls
import CallHierarchy.Proofs.Source.Scan
import CallHierarchy.Proofs.Source.Word
import CallHierarchy.Proofs.MockServer.Sent
import CallHierarchy.Proofs.MockServer.Resolution
import CallHierarchy.Proofs.Source.Identifier
import CallHierarchy.Proofs.Source.Insertion
import CallHierarchy.Proofs.MockServer.Apart
import CallHierarchy.Proofs.Drawing.Shape
import CallHierarchy.Proofs.Drawing.Decoration
import CallHierarchy.Proofs.Path.RoundTrip
import CallHierarchy.Proofs.Path.Style
import CallHierarchy.Proofs.Settings.Sources
import CallHierarchy.Proofs.Text.Ellipsis

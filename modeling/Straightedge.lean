import Straightedge.Main
import Straightedge.Proofs.Drag.Current
import Straightedge.Proofs.Drag.History
import Straightedge.Proofs.Drag.Seclusion
import Straightedge.Proofs.Frame.Locality
import Straightedge.Proofs.Frame.Shown
import Straightedge.Proofs.Frame.Completion
import Straightedge.Proofs.Frame.Reordering
import Straightedge.Proofs.Scene.RoundTrip
import Straightedge.Proofs.Scene.Strict
import Straightedge.Proofs.Statement.Grammar
import Straightedge.Proofs.Document.Sections
import Straightedge.Proofs.Scene.WellFormed
import Straightedge.Proofs.Dependency.Cycle
import Straightedge.Proofs.Statement.Layout
import Straightedge.Proofs.Drag.Printing
import Straightedge.Proofs.Drag.VainPress
import Straightedge.Proofs.Scene.Refusal
import Straightedge.Proofs.Frame.Aborts
import Straightedge.Proofs.Frame.Renaming
import Straightedge.Proofs.Frame.Removal
import Straightedge.Proofs.Canvas.Tracing
import Straightedge.Proofs.Geometry.ExactArc
import Straightedge.Proofs.Scene.Appending
import Straightedge.Proofs.Trace.Truncation

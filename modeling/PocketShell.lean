import PocketShell.Main
import PocketShell.Proofs.Session.Effects
import PocketShell.Proofs.Session.Replay
import PocketShell.Proofs.Session.Simulation
import PocketShell.Proofs.Console.Calls
import PocketShell.Proofs.Console.Ring
import PocketShell.Proofs.Stream.Output
import PocketShell.Proofs.Console.Editor
import PocketShell.Proofs.Console.Scrollback
import PocketShell.Proofs.Screen.Frames
import PocketShell.Proofs.Stream.Plain
import PocketShell.Proofs.Session.Entering
import PocketShell.Proofs.Session.Whereabouts
import PocketShell.Proofs.Session.Permanence
import PocketShell.Proofs.Stream.Limits
import PocketShell.Proofs.Tree.Frame
import PocketShell.Proofs.Stream.Piped
import PocketShell.Proofs.Tree.Walks
import PocketShell.Proofs.Tree.Sight
import PocketShell.Proofs.Tree.Sameness
import PocketShell.Proofs.Session.Navigation
import PocketShell.Proofs.Tree.Independence
import PocketShell.Proofs.Text.Columns
import PocketShell.Proofs.Screen.Rows
import PocketShell.Proofs.Session.Requests
import PocketShell.Proofs.Stream.LineCut
import PocketShell.Proofs.Command.Names
import PocketShell.Proofs.Session.Failures
import PocketShell.Proofs.Console.Slots
import PocketShell.Proofs.Console.Recall
import PocketShell.Proofs.Clock.Text

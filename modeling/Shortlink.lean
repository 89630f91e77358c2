import Shortlink.Clipboard
import Shortlink.Main
import Shortlink.Proofs.Arguments.Placement
import Shortlink.Proofs.Clipboard.Order
import Shortlink.Proofs.Command.Lines
import Shortlink.Proofs.Notifier.Expiry
import Shortlink.Proofs.Notifier.Strays
import Shortlink.Proofs.Notifier.Surface
import Shortlink.Proofs.Program.ExitCode
import Shortlink.Proofs.Program.Start
import Shortlink.Proofs.Server.Count
import Shortlink.Proofs.Server.KeyUrl
import Shortlink.Proofs.Server.Lookup
import Shortlink.Proofs.Server.Places
import Shortlink.Proofs.Server.Rearranged
import Shortlink.Proofs.Session.Copies
import Shortlink.Proofs.Session.Deletion
import Shortlink.Proofs.Session.Lines
import Shortlink.Proofs.Shell.Run
import Shortlink.Proofs.Task

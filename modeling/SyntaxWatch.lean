import SyntaxWatch.Bench
import SyntaxWatch.Editor.Notice
import SyntaxWatch.Main
import SyntaxWatch.Process.Directory
import SyntaxWatch.Process.Script
import SyntaxWatch.Program.Console
import SyntaxWatch.Program.Language
import SyntaxWatch.Proofs.Cycle.Display
import SyntaxWatch.Proofs.Watcher.Force
import SyntaxWatch.Proofs.Watcher.Silence
import SyntaxWatch.Report.Json
import SyntaxWatch.Report.Record
import SyntaxWatch.Server.Session
import SyntaxWatch.Proofs.Watcher.Isolation
import SyntaxWatch.Proofs.Watcher.Showing
import SyntaxWatch.Proofs.Server.Deeds
import SyntaxWatch.Proofs.Server.Moves
import SyntaxWatch.Proofs.Server.Tracking
import SyntaxWatch.Proofs.Server.Publishing
import SyntaxWatch.Proofs.Server.Freshness
import SyntaxWatch.Proofs.Server.Delivery
import SyntaxWatch.Proofs.Reconciliation.Ledger
import SyntaxWatch.Proofs.Finding.Offsets
import SyntaxWatch.Proofs.Finding.Printed
import SyntaxWatch.Proofs.Finding.Renaming
import SyntaxWatch.Proofs.Finding.LineEndings
import SyntaxWatch.Proofs.Watcher.Answer
import SyntaxWatch.Proofs.Watcher.Files
import SyntaxWatch.Proofs.Server.Storage
import SyntaxWatch.Proofs.Server.Files
import SyntaxWatch.Proofs.Highlight
import SyntaxWatch.Proofs.Editor.Notice
import SyntaxWatch.Proofs.Finding.Cap
import SyntaxWatch.Proofs.Cycle.Outline
import SyntaxWatch.Proofs.Watcher.Sleep
import SyntaxWatch.Proofs.Settings.Precedence
import SyntaxWatch.Proofs.Settings.Spelling
import SyntaxWatch.Proofs.Settings.Discovery
import SyntaxWatch.Proofs.Report.Human
import SyntaxWatch.Proofs.Report.Json
import SyntaxWatch.Proofs.Process.Bookkeeping

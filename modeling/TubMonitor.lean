import TubMonitor.Program
import TubMonitor.Proofs.Isolation.Law
import TubMonitor.Proofs.Mail.Law
import TubMonitor.Proofs.Ozone.Law
import TubMonitor.Proofs.Shutdown.Law
import TubMonitor.Proofs.Leak.Restart
import TubMonitor.Proofs.Leak.Recovery
import TubMonitor.Proofs.Ozone.Entries
import TubMonitor.Proofs.Ozone.Deadlines
import TubMonitor.Proofs.Temperature.Law
import TubMonitor.Proofs.Leak.Interlock
import TubMonitor.Proofs.Notice.Law
import TubMonitor.Proofs.Store.Law
import TubMonitor.Proofs.Settings.Law
import TubMonitor.Proofs.Ozone.HalfClosed
import TubMonitor.Proofs.Settings.Validation
import TubMonitor.Proofs.Store.MemoryRows
import TubMonitor.Proofs.Settings.RoundTrip
import TubMonitor.Proofs.Sensors.Lines
import TubMonitor.Proofs.Sensors.Reports
import TubMonitor.Proofs.Console.Grammar
import TubMonitor.Proofs.Console.Law
import TubMonitor.Proofs.Temperature.Sampling
import TubMonitor.Proofs.Polling.Law

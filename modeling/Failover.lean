import Failover.Elapsed
import Failover.Main
import Failover.Proofs.Blacklist.Expiry
import Failover.Proofs.Config.Acceptance
import Failover.Proofs.Config.SaveLoad
import Failover.Proofs.HostList.Override
import Failover.Proofs.HostList.RoundTrip
import Failover.Proofs.Network.Generations
import Failover.Proofs.Network.UsableConnections
import Failover.Proofs.Office.ClosedSessions
import Failover.Proofs.Office.FailedRoles
import Failover.Proofs.Office.OpenConnections
import Failover.Proofs.Office.QueryCount
import Failover.Proofs.Office.SearchBudget
import Failover.Proofs.Office.SwitchHonoured
import Failover.Proofs.Office.WritesRefused
import Failover.Proofs.Outage.Summary
import Failover.Proofs.Rehearsal.RoundTimes
import Failover.Proofs.Search.Course
import Failover.Proofs.Search.DrawOrder
import Failover.Proofs.Session.FailedSwitch
import Failover.Proofs.Session.Fallback
import Failover.Proofs.Session.FalseAlarm
import Failover.Proofs.Session.Journal
import Failover.Proofs.Session.MarkedSlots
import Failover.Proofs.Session.Moves
import Failover.Proofs.Session.OpeningOutcome
import Failover.Proofs.Session.ReadOnlyMarks
import Failover.Proofs.Session.RecoveryReplay
import Failover.Proofs.Session.RetryRound
import Failover.Rehearsal
import Failover.Scenario

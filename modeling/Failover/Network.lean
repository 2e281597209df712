import Failover.Blacklist
import Failover.Cluster
import Failover.Connection
import Failover.Disturbance
import Failover.Error

/-!
What lies outside a session: the servers, the connections to them, the blacklists, the random draws
and lots that are to come, and the troubles that calls may meet.
-/
namespace Failover

/-- Which blacklist is meant: one of its own, or the one that the whole process shares. -/
inductive Registry where
  | own
  | processWide
  deriving DecidableEq

structure Network where
  /-- The draws to come; after the last one every draw is zero. -/
  draws : List Nat := []
  /-- Where a round of a loop and its end come at one instant, whether the round comes first; after
  the last lot it never does. -/
  lots : List Bool := []
  cluster : Cluster := {}
  connections : Array Connection := #[]
  /-- Troubles by host and call, none while connections are undisturbed. -/
  disturbances : List ((Endpoint × Call) × Disturbance) := []
  ownBlacklist : Blacklist := {}
  processBlacklist : Blacklist := {}

namespace Network

def connection (n : Network) (h : Handle) : Connection := n.connections.getD h default

def updateConnection (h : Handle) (f : Connection → Connection) (n : Network) : Network :=
  { n with connections := n.connections.modify h f }

def blacklist (n : Network) : Registry → Blacklist
  | .own => n.ownBlacklist
  | .processWide => n.processBlacklist

def updateBlacklist (r : Registry) (f : Blacklist → Blacklist) (n : Network) : Network :=
  match r with
  | .own => { n with ownBlacklist := f n.ownBlacklist }
  | .processWide => { n with processBlacklist := f n.processBlacklist }

def draw (size : Nat) (n : Network) : Nat × Network :=
  (n.draws.headD 0 % size, { n with draws := n.draws.tail })

def drawLot (n : Network) : Bool × Network := (n.lots.headD false, { n with lots := n.lots.tail })

/-- What a call on a host meets: the delay, and the trouble while there is some left. -/
def meet (e : Endpoint) (c : Call) (n : Network) : (Nat × Option Trouble) × Network :=
  match n.disturbances.lookup (e, c) with
  | none => ((0, none), n)
  | some d =>
    if d.times = 0 then ((d.delay, none), n)
    else
      ((d.delay, d.trouble),
        { n with
          disturbances := n.disturbances.map fun x =>
            if x.1 = (e, c) then (x.1, { x.2 with times := x.2.times - 1 }) else x })

def disturb (e : Endpoint) (c : Call) (d : Disturbance) (n : Network) : Network :=
  { n with disturbances := ((e, c), d) :: n.disturbances.filter (·.1 ≠ (e, c)) }

/-- The server behind a connection that is still good: open, up, and not stopped in between. -/
def server (n : Network) (h : Handle) : Except Error Server :=
  let c := n.connection h
  if c.closed then .error (.connectivity c.host.text "connection closed")
  else
    match (n.cluster.find? c.host.endpoint).filter
        fun s => s.up && s.generation == c.generation with
    | some s => .ok s
    | none => .error (.connectivity c.host.text "connection reset by peer")

/-- Opens a connection, which takes the next number. -/
def connect (host : Host) (n : Network) : Except Error Handle × Network :=
  match n.cluster.find? host.endpoint with
  | none => (.error (.connectivity host.text "unknown host"), n)
  | some s =>
    let n := { n with
      cluster := n.cluster.update host.endpoint fun s =>
        { s with connectAttempts := s.connectAttempts + 1 } }
    if s.up then
      (.ok n.connections.size,
        { n with
          connections := n.connections.push
            { host, generation := s.generation, lastPrimary := s.writable } })
    else (.error (.connectivity host.text "connection refused"), n)

def ping (h : Handle) (n : Network) : Except Error Bool × Network :=
  ((n.server h).map fun _ => true, n)

/-- Asks whether the server takes writes, and remembers the answer. -/
def check (h : Handle) (n : Network) : Except Error Bool × Network :=
  match n.server h with
  | .error e => (.error e, n)
  | .ok s =>
    (.ok s.writable,
      n.updateConnection h fun c => { c with lastPrimary := s.writable, readOnly := !s.writable })

def record (h : Handle) (statement : String) (n : Network) : Network :=
  { n with
    cluster := n.cluster.update (n.connection h).host.endpoint fun s =>
      { s with executed := s.executed ++ [statement] } }

/-- Sends a statement. A write is noted even where it is refused. -/
def execute (h : Handle) (sql : String) (n : Network) : Except Error QueryResult × Network :=
  match n.server h with
  | .error e => (.error e, n)
  | .ok s =>
    let c := n.connection h
    let statement := Text.trimmed sql
    let n := n.record h statement
    if isWrite statement && (c.readOnly || !s.writable) then
      (.error (.query ("host " ++ c.host.text ++ " is running with read-only option")), n)
    else
      let command := String.ofList (keywords statement)
      if command = "SELECT @@SERVER_ID" then
        (.ok (.scalar "@@server_id" (toString s.id)), n)
      else
        (.ok (if isWrite statement then .affecting 1 else .empty),
          n.updateConnection h (·.obey command))

def setIsolation (h : Handle) (level : Isolation) (n : Network) : Except Error Unit × Network :=
  match n.server h with
  | .error e => (.error e, n)
  | .ok _ =>
    (.ok (),
      (n.record h ("SET SESSION TRANSACTION ISOLATION LEVEL " ++ level.text)).updateConnection h
        fun c => { c with isolation := some level })

def selectDatabase (h : Handle) (name : String) (n : Network) : Except Error Unit × Network :=
  match n.server h with
  | .error e => (.error e, n)
  | .ok _ =>
    (.ok (),
      (n.record h ("USE " ++ name)).updateConnection h fun c => { c with database := some name })

def close (h : Handle) (n : Network) : Network :=
  n.updateConnection h fun c => { c with closed := true }

def versionAtLeast (h : Handle) (version : Nat × Nat × Nat) (n : Network) : Bool :=
  (n.cluster.find? (n.connection h).host.endpoint).any fun s =>
    let (a, b, c) := s.version
    let (x, y, z) := version
    decide (x < a) || (x == a && (decide (y < b) || (y == b && decide (z ≤ c))))

end Network

end Failover

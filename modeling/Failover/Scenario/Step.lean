import Failover.Config
import Failover.Network

/-! The steps of a scenario. Hosts, sessions and connections stand in them by number or name. -/
namespace Failover.Scenario

inductive HostRef where
  | index (i : Nat)
  | host (h : Host)

inductive Ask where
  | execute (op : Operation)
  | switchReadOnly (readOnly : Bool)
  | reconnect
  | needsFailover (handle : String) (op : Option Operation)
  | handleFailure (handle : String) (op : Option Operation) (e : Error)
  | close

inductive HandleStep where
  | properties
  | ping
  | check
  | query (sql : String)
  | invoke (op : Operation)
  | close
  | beginTransaction
  | setMaxRows (n : UInt32)
  | setMaxPacket (n : UInt32)
  | setReadOnly (readOnly : Bool)
  | setIsolation (level : Isolation)
  | selectDatabase (name : String)
  | versionAtLeast (version : Nat × Nat × Nat)
  | tellReadOnly (readOnly : Bool)
  | relaunch (op : Option Operation)
  | role (discovered : Bool)
  | health (limit : Option Nat)

inductive BlacklistStep where
  | add (h : HostRef)
  | addAt (h : HostRef) (time : Int)
  | remove (h : HostRef)
  | contains (h : HostRef)
  | prune (lifetime : Nat)
  | pruneAt (time : Int) (lifetime : Nat)
  | filter (hosts : Option (List HostRef))
  | size
  | clear

inductive Step where
  | advance (ms : Nat)
  | stop (h : HostRef)
  | start (h : HostRef)
  | promote (h : HostRef)
  | demote (h : HostRef)
  | setVersion (h : HostRef) (version : Nat × Nat × Nat)
  | addHost (h : HostRef) (writable : Bool)
  | server (h : HostRef)
  | disturb (h : HostRef) (c : Call) (d : Disturbance)
  | connect (session : String) (mode : Mode) (hosts : Option (List HostRef)) (options : Options)
  | connectConfig (session : String) (hosts : Option (List HostRef)) (config : Config)
  | ask (session : String) (a : Ask)
  | describe (session : String)
  | grab (session name : String)
  | foundPrimary (session handle : String)
  | foundSecondary (session handle : String)
  | drop (session : String)
  | spawn (id session : String) (a : Ask)
  | join (id : String)
  | openConnection (h : HostRef) (name : String)
  | same (source dest : String)
  | sync (source dest : String) (logged : Bool)
  | onHandle (handle : String) (s : HandleStep)
  | search (mode : Mode) (hosts : Option (List HostRef)) (needs : Needs)
  | searchPass (mode : Mode) (hosts : Option (List HostRef)) (needs : Needs)
  | blacklist (s : BlacklistStep)

end Failover.Scenario

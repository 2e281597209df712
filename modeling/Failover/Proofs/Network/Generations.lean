import Failover.Proofs.Office.Handover
import Failover.Proofs.Network.CallEffects

/-!
Connections that a stop has broken. A server counts its stops, and a connection works while the
count is the one at which it was opened. Only a server that takes the place of another counts anew;
so a broken connection stays broken unless its server is replaced.
-/
namespace Failover

namespace Cluster

inductive Event where
  | add (e : Endpoint) (writable : Bool)
  | stop (e : Endpoint)
  | start (e : Endpoint)
  | promote (e : Endpoint)
  | demote (e : Endpoint)
  | setVersion (e : Endpoint) (version : Nat × Nat × Nat)
  deriving DecidableEq

namespace Event

def apply (c : Cluster) : Event → Cluster
  | add e writable => c.add e writable
  | stop e => c.stop e
  | start e => c.start e
  | promote e => c.promote e
  | demote e => c.demote e
  | setVersion e version => c.setVersion e version

/-- What an event makes of a server, by whether it is up and how often it was stopped. -/
def fate (e : Endpoint) (x : Bool × Nat) : Event → Bool × Nat
  | add e' _ => if e' = e then (true, 0) else x
  | stop e' => if e' = e then (false, x.2 + 1) else x
  | start e' => if e' = e then (true, x.2) else x
  | _ => x

end Event

variable {c : Cluster} {e e' : Endpoint} {s : Server}

theorem find?_promote (c : Cluster) (e e' : Endpoint) :
    (c.promote e').find? e = (c.find? e).map fun s => { s with writable := e = e' } := by
  obtain ⟨servers⟩ := c
  simp only [promote, find?]
  induction servers with
  | nil => rfl
  | cons x xs ih =>
    obtain ⟨k, s⟩ := x
    by_cases hk : e = k
    · simp [hk]
    · simp [List.lookup_cons, beq_false_of_ne hk, ih]

theorem find?_add_self (hs : c.find? e = some s) (writable : Bool) :
    (c.add e writable).find? e = some { id := c.servers.length + 1, writable } := by
  obtain ⟨l, l', hl, -⟩ := List.lookup_eq_some_iff.1 hs
  have hknown : c.servers.any (·.1 = e) = true := by
    rw [hl]
    simp
  simp only [add, hknown, if_true, find?_update_self, hs, Option.map_some]

theorem find?_add_of_ne (h : e ≠ e') (c : Cluster) (writable : Bool) :
    (c.add e' writable).find? e = c.find? e := by
  unfold add
  split
  · exact find?_update_of_ne _ h
  · simp [find?, List.lookup_append, List.lookup_cons, beq_false_of_ne h]

theorem exists_find?_update {f : Server → Server} {x : Bool × Nat} (hs : c.find? e = some s)
    (hf : e' = e → ((f s).up, (f s).generation) = x) (hne : e' ≠ e → (s.up, s.generation) = x) :
    ∃ s', (c.update e' f).find? e = some s' ∧ (s'.up, s'.generation) = x := by
  by_cases he : e' = e
  · subst he
    exact ⟨f s, by rw [find?_update_self, hs, Option.map_some], hf rfl⟩
  · exact ⟨s, by rw [find?_update_of_ne _ (Ne.symm he), hs], hne he⟩

theorem exists_find?_apply (hs : c.find? e = some s) (v : Event) :
    ∃ s', (v.apply c).find? e = some s' ∧
      (s'.up, s'.generation) = v.fate e (s.up, s.generation) := by
  cases v with
  | add e' writable =>
    by_cases he : e' = e
    · subst he
      exact ⟨_, find?_add_self hs writable, by simp [Event.fate]⟩
    · exact ⟨s, (find?_add_of_ne (Ne.symm he) c writable).trans hs, by simp [Event.fate, he]⟩
  | stop e' =>
    exact exists_find?_update hs (fun he => (if_pos he).symm) fun he => (if_neg he).symm
  | start e' =>
    exact exists_find?_update hs (fun he => (if_pos he).symm) fun he => (if_neg he).symm
  | promote e' =>
    have hfind := find?_promote c e e'
    rw [hs, Option.map_some] at hfind
    exact ⟨_, hfind, rfl⟩
  | demote e' => exact exists_find?_update hs (fun _ => rfl) fun _ => rfl
  | setVersion e' version => exact exists_find?_update hs (fun _ => rfl) fun _ => rfl

end Cluster

/-- What may be done with a connection: asked of its server, or set by the caller alone. -/
inductive Connection.Use where
  | ping
  | check
  | execute (sql : String)
  | setIsolation (level : Isolation)
  | selectDatabase (name : String)
  | close
  | begin
  | setMaxRows (max : UInt32)
  | setMaxPacket (size : UInt32)
  | setReadOnly (readOnly : Bool)
  deriving DecidableEq

namespace Network

inductive Event where
  | servers (v : Cluster.Event)
  | connect (host : Host)
  | use (h : Handle) (u : Connection.Use)
  deriving DecidableEq

def use (h : Handle) (n : Network) : Connection.Use → Network
  | .ping => (n.ping h).2
  | .check => (n.check h).2
  | .execute sql => (n.execute h sql).2
  | .setIsolation level => (n.setIsolation h level).2
  | .selectDatabase name => (n.selectDatabase h name).2
  | .close => n.close h
  | .begin => n.updateConnection h fun c => { c with inTransaction := true }
  | .setMaxRows max => n.updateConnection h fun c => { c with maxRows := max }
  | .setMaxPacket size => n.updateConnection h fun c => { c with maxAllowedPacket := size }
  | .setReadOnly readOnly => n.updateConnection h fun c => { c with readOnly }

def Event.apply (n : Network) : Event → Network
  | servers v => { n with cluster := v.apply n.cluster }
  | connect host => (n.connect host).2
  | use h u => n.use h u

def run (n : Network) (events : List Event) : Network := events.foldl Event.apply n

/-- What events make of a server, by whether it is up and how often it was stopped. -/
def Event.fate (e : Endpoint) (x : Bool × Nat) : Event → Bool × Nat
  | servers v => v.fate e x
  | _ => x

/-- Whatever is asked over the connection fails for want of it, and nothing changes. -/
def Severed (h : Handle) (n : Network) : Prop :=
  ∃ e : Error, e.isConnectivity = true ∧ n.ping h = (.error e, n) ∧ n.check h = (.error e, n) ∧
    (∀ sql, n.execute h sql = (.error e, n)) ∧ (∀ level, n.setIsolation h level = (.error e, n)) ∧
    ∀ name, n.selectDatabase h name = (.error e, n)

def noted (h : Handle) (statement : String) (n : Network) : Cluster :=
  n.cluster.update (n.connection h).host.endpoint (·.noting [statement])

/-- Whatever is asked over the connection is answered by the server, which notes the statements. -/
structure Answered (s : Server) (h : Handle) (n : Network) : Prop where
  server : n.cluster.find? (n.connection h).host.endpoint = some s
  ping : (n.ping h).1 = .ok true
  check : (n.check h).1 = .ok s.writable
  execute : ∀ sql, (n.execute h sql).1 = ((n.connection h).answer s sql).result ∧
    (n.execute h sql).2.cluster = n.noted h (Text.trimmed sql)
  setIsolation : ∀ level, (n.setIsolation h level).1 = .ok () ∧ (n.setIsolation h level).2.cluster =
    n.noted h ("SET SESSION TRANSACTION ISOLATION LEVEL " ++ level.text)
  selectDatabase : ∀ name, (n.selectDatabase h name).1 = .ok () ∧
    (n.selectDatabase h name).2.cluster = n.noted h ("USE " ++ name)

def Works (h : Handle) (n : Network) : Prop := ∃ s, n.Answered s h

variable {n n' : Network} {h : Handle} {s : Server} {host : Host} {e : Endpoint} {x : Bool × Nat}

theorem severed_of_server {e : Error} (he : n.server h = .error e) : n.Severed h := by
  refine ⟨e, isConnectivity_of_server he, ?_, ?_, fun sql => ?_, fun level => ?_, fun name => ?_⟩
  · simp [Network.ping, he, Except.map]
  · simp [Network.check, he]
  · simp [Network.execute, he]
  · simp [Network.setIsolation, he]
  · simp [Network.selectDatabase, he]

theorem execute_of_server (hs : n.server h = .ok s) (sql : String) :
    (n.execute h sql).1 = ((n.connection h).answer s sql).result ∧
      (n.execute h sql).2.cluster = n.noted h (Text.trimmed sql) := by
  unfold Network.execute Connection.answer
  rw [hs]
  dsimp only
  split
  · exact ⟨rfl, rfl⟩
  · split
    · exact ⟨rfl, rfl⟩
    · exact ⟨rfl, rfl⟩

theorem find?_of_server (hs : n.server h = .ok s) :
    n.cluster.find? (n.connection h).host.endpoint = some s := by
  unfold Network.server at hs
  dsimp only at hs
  split at hs
  · cases hs
  · split at hs
    · rename_i s' hs'
      cases hs
      exact (Option.filter_eq_some_iff.1 hs').1
    · cases hs

theorem answered_of_server (hs : n.server h = .ok s) : n.Answered s h where
  server := find?_of_server hs
  ping := by simp [Network.ping, hs, Except.map]
  check := by simp [Network.check, hs]
  execute := execute_of_server hs
  setIsolation level := by
    rw [Network.setIsolation, hs]
    exact ⟨rfl, rfl⟩
  selectDatabase name := by
    rw [Network.selectDatabase, hs]
    exact ⟨rfl, rfl⟩

theorem works_iff : n.Works h ↔ ∃ s, n.server h = .ok s := by
  constructor
  · intro hw
    obtain ⟨s, hs⟩ := hw
    cases hserver : n.server h with
    | ok s => exact ⟨s, rfl⟩
    | error e =>
      have hping := hs.ping
      rw [Network.ping, hserver] at hping
      cases hping
  · intro hw
    obtain ⟨s, hs⟩ := hw
    exact ⟨s, answered_of_server hs⟩

theorem severed_iff : n.Severed h ↔ ¬n.Works h := by
  rw [works_iff]
  cases hserver : n.server h with
  | error e => simpa using severed_of_server hserver
  | ok s =>
    refine iff_of_false (fun hsev => ?_) (by simp)
    obtain ⟨e, -, hping, -⟩ := hsev
    rw [Network.ping, hserver] at hping
    cases hping

/-- How things stand between a connection and its server: the host, the count at which the
connection was opened and whether it is closed, then whether the server is up and how often it was
stopped. -/
structure Tied (c : Host × Nat × Bool) (x : Bool × Nat) (h : Handle) (n : Network) : Prop where
  opened : h < n.connections.size
  link : (n.connection h).link = c
  standing : ∃ s, n.cluster.find? c.1.endpoint = some s ∧ (s.up, s.generation) = x

theorem Tied.steady {c : Host × Nat × Bool} (ht : Tied c x h n) (hs : Steady n n') :
    Tied c x h n' := by
  obtain ⟨s, hfind, hx⟩ := ht.standing
  refine ⟨Nat.lt_of_lt_of_le ht.opened hs.size, ?_, ?_⟩
  · rw [← ht.link, Connection.link, Connection.link, hs.host h ht.opened,
      hs.generation h ht.opened, hs.closed h ht.opened]
  · have hsame := hs.standing c.1.endpoint
    rw [Network.standing, Network.standing, hfind] at hsame
    obtain ⟨s', hfind', hs'⟩ := Option.map_eq_some_iff.1 hsame
    simp only [Prod.mk.injEq] at hs'
    exact ⟨s', hfind', by rw [hs'.1, hs'.2.2, hx]⟩

theorem Steady.of_link (hs : SameServers n n') (hsize : n.connections.size ≤ n'.connections.size)
    (hlink : ∀ x < n.connections.size, (n'.connection x).link = (n.connection x).link) :
    Steady n n' := by
  simp only [Connection.link, Prod.mk.injEq] at hlink
  exact ⟨hs, hsize, fun x hx => (hlink x hx).1, fun x hx => (hlink x hx).2.1,
    fun x hx => (hlink x hx).2.2⟩

theorem steady_connect (host : Host) (n : Network) : Steady n (n.connect host).2 := by
  refine .of_link (sameServers_connect host n) (grows_connect host n) fun x hx => ?_
  unfold Network.connect
  split
  · rfl
  · dsimp only
    split
    · simp [connection, Array.getElem?_push, Nat.ne_of_lt hx]
    · rfl

theorem steady_record (h : Handle) (statement : String) (n : Network) :
    Steady n (n.record h statement) :=
  .of_link (sameServers_record h statement n) (Nat.le_refl _) fun _ _ => rfl

theorem steady_updateConnection {f : Connection → Connection} (hf : ∀ c, (f c).link = c.link)
    (h : Handle) (n : Network) : Steady n (n.updateConnection h f) :=
  .of_link (sameServers_updateConnection h f n) (Nat.le_of_eq (size_updateConnection h f n).symm)
    fun x _ => view_updateConnection hf h x n

instance : AllowsCalls Steady :=
  ⟨.refl, .trans, fun c e n => steady_meet e c n, steady_record,
    fun hf _ => steady_updateConnection hf⟩

instance : AllowsSettings Steady := ⟨steady_updateConnection⟩

theorem steady_use {u : Connection.Use} (hu : u ≠ .close) (h : Handle) (n : Network) :
    Steady n (n.use h u) := by
  cases u with
  | ping => exact .refl n
  | check => exact keeps_check h n
  | execute sql => exact keeps_execute h sql n
  | setIsolation level => exact keeps_setIsolation h level n
  | selectDatabase name => exact keeps_selectDatabase h name n
  | close => exact (hu rfl).elim
  | begin => exact steady_updateConnection (fun c => by rfl) h n
  | setMaxRows max => exact steady_updateConnection (fun c => by rfl) h n
  | setMaxPacket size => exact steady_updateConnection (fun c => by rfl) h n
  | setReadOnly readOnly => exact steady_updateConnection (fun c => by rfl) h n

section Run
variable {g : Nat} {closed : Bool}

theorem Tied.close (ht : Tied (host, g, closed) x h n) (h' : Handle) :
    Tied (host, g, closed || decide (h' = h)) x h (n.close h') := by
  refine ⟨by simpa [Network.close] using ht.opened, ?_, ht.standing⟩
  have hlink := ht.link
  by_cases hh : h' = h
  · subst hh
    simp only [Connection.link, Prod.mk.injEq] at hlink
    simp [Network.close, connection_updateConnection_self _ ht.opened, Connection.link, hlink]
  · rw [Network.close, connection_updateConnection_of_ne _ n (Ne.symm hh), hlink,
      decide_eq_false hh, Bool.or_false]

/-- The connection stays what it is until it is closed, and the server stands as events make it. -/
theorem Tied.apply (ht : Tied (host, g, closed) x h n) (v : Event) :
    Tied (host, g, closed || decide (v = .use h .close)) (v.fate host.endpoint x) h
      (v.apply n) := by
  cases v with
  | servers v =>
    obtain ⟨s, hfind, hx⟩ := ht.standing
    obtain ⟨s', hfind', hx'⟩ := Cluster.exists_find?_apply hfind v
    rw [decide_eq_false (by simp), Bool.or_false]
    exact ⟨ht.opened, ht.link, s', hfind', hx'.trans (by rw [hx]; rfl)⟩
  | connect host' =>
    rw [decide_eq_false (by simp), Bool.or_false]
    exact ht.steady (steady_connect host' n)
  | use h' u =>
    by_cases hu : u = .close
    · subst hu
      rw [show decide (Event.use h' .close = .use h .close) = decide (h' = h) by simp]
      exact ht.close h'
    · rw [decide_eq_false (by simp [hu]), Bool.or_false]
      exact ht.steady (steady_use hu h' n)

theorem Tied.run (ht : Tied (host, g, closed) x h n) (events : List Event) :
    Tied (host, g, closed || decide (.use h .close ∈ events))
      (events.foldl (Event.fate host.endpoint) x) h (n.run events) := by
  induction events generalizing n closed x with
  | nil => simpa [Network.run] using ht
  | cons v rest ih => simpa [Network.run, Bool.or_assoc, eq_comm] using ih (ht.apply v)

/-- A connection works while it is open and its server is up at the count at which it was opened. -/
theorem Tied.works_iff (ht : Tied (host, g, closed) x h n) :
    n.Works h ↔ closed = false ∧ x = (true, g) := by
  rw [Network.works_iff]
  obtain ⟨s, hfind, rfl⟩ := ht.standing
  have hlink := ht.link
  simp only [Connection.link, Prod.mk.injEq] at hlink
  obtain ⟨hhost, hg, hclosed⟩ := hlink
  unfold Network.server
  dsimp only
  rw [hhost, hg, hclosed, hfind]
  cases closed with
  | true => simp
  | false =>
    by_cases hup : s.up = true ∧ s.generation = g
    · simp [Option.filter, hup]
    · simp [Option.filter, hup]

theorem Tied.isUp (ht : Tied (host, g, closed) x h n) : n.cluster.isUp host.endpoint = x.1 := by
  obtain ⟨s, hfind, rfl⟩ := ht.standing
  simp [Cluster.isUp, hfind]

theorem tied_connect (hopen : (n.connect host).1 = .ok h) :
    let g := ((n.connect host).2.connection h).generation
    Tied (host, g, false) (true, g) h (n.connect host).2 := by
  obtain ⟨h', he, hl⟩ | ⟨⟨e, he⟩, -⟩ := connect_linked .masterOnly host n
  · obtain rfl : h' = h := Except.ok.inj (he.symm.trans hopen)
    obtain ⟨s, -, hfind, hup⟩ := hl.server
    obtain ⟨w, hw⟩ := hl.standing
    simp only [Network.standing, hfind, Option.map_some, Option.some.injEq, Prod.mk.injEq] at hw
    exact ⟨hl.opened, by simp [Connection.link, hl.target, hl.closed], s, hfind,
      by rw [hw.1, hw.2.2]⟩
  · rw [he] at hopen
    cases hopen

theorem works_connect (hup : n.cluster.isUp host.endpoint = true) :
    ∃ h, (n.connect host).1 = .ok h ∧ (n.connect host).2.Works h := by
  obtain ⟨h, he, hl⟩ | ⟨-, hrole⟩ := connect_linked .masterOnly host n
  · obtain ⟨s, hserver, -⟩ := hl.server
    exact ⟨h, he, Network.works_iff.2 ⟨s, hserver⟩⟩
  · obtain ⟨s, hs, hsup⟩ := Option.any_eq_true _ _ |>.1 hup
    simp_all [role?]

end Run

section Fate
variable {events : List Event}

/-- A server that is not replaced counts its own stops, and nothing else that is done to it. -/
theorem Event.fate_cases {v : Event} (hadd : ∀ w, .servers (.add e w) ≠ v) (x : Bool × Nat) :
    v = .servers (.stop e) ∧ v.fate e x = (false, x.2 + 1) ∨
      v ≠ .servers (.stop e) ∧ (v.fate e x = x ∨ v.fate e x = (true, x.2)) := by
  cases v with
  | servers v =>
    cases v with
    | add e' w =>
      have hne : e' ≠ e := fun he => hadd w (by rw [he])
      exact .inr ⟨by simp, .inl (if_neg hne)⟩
    | stop e' =>
      by_cases he : e' = e
      · exact .inl ⟨by rw [he], if_pos he⟩
      · exact .inr ⟨by simp [he], .inl (if_neg he)⟩
    | start e' =>
      by_cases he : e' = e
      · exact .inr ⟨by simp, .inr (if_pos he)⟩
      · exact .inr ⟨by simp, .inl (if_neg he)⟩
    | _ => exact .inr ⟨by simp, .inl rfl⟩
  | _ => exact .inr ⟨by simp, .inl rfl⟩

theorem fate_count (hadd : ∀ w, .servers (.add e w) ∉ events) (x : Bool × Nat) :
    (events.foldl (Event.fate e) x).2 = x.2 + events.count (.servers (.stop e)) := by
  induction events generalizing x with
  | nil => rfl
  | cons v rest ih =>
    simp only [List.mem_cons, not_or] at hadd
    rw [List.foldl_cons, ih fun w => (hadd w).2]
    obtain ⟨rfl, hv⟩ | ⟨hne, hv⟩ := Event.fate_cases (fun w => (hadd w).1) x
    · rw [hv, List.count_cons_self]
      omega
    · rw [List.count_cons_of_ne hne]
      obtain hv | hv := hv
      · rw [hv]
      · rw [hv]

theorem fate_eq_iff (hadd : ∀ w, .servers (.add e w) ∉ events) (k : Nat) :
    events.foldl (Event.fate e) (true, k) = (true, k) ↔ .servers (.stop e) ∉ events := by
  constructor
  · intro heq
    have hcount := fate_count hadd (true, k)
    rw [heq] at hcount
    exact List.count_eq_zero.1 (by simpa using hcount)
  · intro hstop
    induction events with
    | nil => rfl
    | cons v rest ih =>
      simp only [List.mem_cons, not_or] at hadd hstop
      have hv : v.fate e (true, k) = (true, k) := by
        obtain ⟨he, -⟩ | ⟨-, hv⟩ := Event.fate_cases (fun w => (hadd w).1) (true, k)
        · exact (hstop.1 he.symm).elim
        · exact hv.elim id id
      rw [List.foldl_cons, hv]
      exact ih (fun w => (hadd w).2) hstop.2

theorem fate_append_add (before after : List Event) (w : Bool) (x : Bool × Nat) :
    (before ++ .servers (.add e w) :: after).foldl (Event.fate e) x =
      after.foldl (Event.fate e) (true, 0) := by
  simp [Event.fate, Cluster.Event.fate]

end Fate

/-- While its server is not replaced, a connection is broken by the first stop, for good. Once the
server was replaced, only the stops since the last time count: the connection works if the server is
up and they are as many as had been counted when it was opened. In any case a server that is up
takes new connections, and they work. -/
theorem severed_unless_replaced (hopen : (n.connect host).1 = .ok h) (events : List Event) :
    let opened := (n.connect host).2
    let m := opened.run events
    (m.Severed h ↔ ¬m.Works h) ∧
      ((∀ w, .servers (.add host.endpoint w) ∉ events) →
        (m.Severed h ↔ .servers (.stop host.endpoint) ∈ events ∨ .use h .close ∈ events)) ∧
      (∀ before after w, events = before ++ .servers (.add host.endpoint w) :: after →
        (∀ w, .servers (.add host.endpoint w) ∉ after) →
        (m.Severed h ↔ .use h .close ∈ events ∨ m.cluster.isUp host.endpoint = false ∨
          after.count (.servers (.stop host.endpoint)) ≠ (opened.connection h).generation)) ∧
      ∀ host', m.cluster.isUp host'.endpoint = true →
        ∃ h', (m.connect host').1 = .ok h' ∧ (m.connect host').2.Works h' := by
  intro opened m
  have ht := (tied_connect hopen).run events
  rw [Bool.false_or] at ht
  refine ⟨severed_iff, fun hadd => ?_, fun before after w hevents hadd => ?_,
    fun host' => works_connect⟩
  · rw [severed_iff, ht.works_iff, fate_eq_iff hadd, decide_eq_false_iff_not, not_and_or, not_not,
      not_not, or_comm]
  · have hup := ht.isUp
    have hcount := fate_count hadd (true, 0)
    rw [← fate_append_add before after w (true, (opened.connection h).generation), ← hevents,
      Nat.zero_add] at hcount
    rw [severed_iff, ht.works_iff, Prod.ext_iff, ← hup, hcount, decide_eq_false_iff_not, not_and_or,
      not_and_or, not_not, Bool.not_eq_true]

/-- A server goes down and comes back: the connection to it stays broken, and a new one works. Where
another server takes the place of the one that went down, the old connection works again. -/
theorem severed_unless_replaced_restart :
    let host := Cluster.numbered .replica 1
    let n : Network := { cluster := .ofHosts (Cluster.replicationHosts 1) }
    let opened := (n.connect host).2
    let restarted := opened.run [.servers (.stop host.endpoint), .servers (.start host.endpoint)]
    let replaced := opened.run [.servers (.stop host.endpoint), .servers (.add host.endpoint false)]
    (n.connect host).1 = .ok 0 ∧ restarted.Severed 0 ∧
      (∃ h, (restarted.connect host).1 = .ok h ∧ (restarted.connect host).2.Works h) ∧
      ¬replaced.Severed 0 := by
  intro host n opened restarted replaced
  have hopen : (n.connect host).1 = .ok 0 := by decide +kernel
  obtain ⟨-, hstopped, -, hup⟩ := severed_unless_replaced hopen
    [.servers (.stop host.endpoint), .servers (.start host.endpoint)]
  obtain ⟨-, -, hadded, -⟩ := severed_unless_replaced hopen
    [.servers (.stop host.endpoint), .servers (.add host.endpoint false)]
  refine ⟨hopen, (hstopped (by decide)).2 (.inl (by decide)), hup host (by decide +kernel), ?_⟩
  rw [hadded [.servers (.stop host.endpoint)] [] false rfl (by simp)]
  decide +kernel

end Network

namespace Scenario

/-- A connection that is broken because its server went down works again once a server is added at
the same endpoint, and what is sent over it arrives there. -/
theorem replaced_server_revives :
    let stopped := Stage.after (Setting.stage { hosts := Cluster.replicationHosts 1 })
      [.openConnection (.index 0) "h", .stop (.index 0)]
    let replaced := stopped.after [.addHost (.index 0) true]
    let asked := replaced.network.execute 0 "SELECT 1"
    (stopped.network.ping 0).1 = .error (.connectivity "mock-0:3306" "connection reset by peer") ∧
      (replaced.network.ping 0).1 = .ok true ∧ asked.1 = .ok .empty ∧
      ((asked.2.cluster.find? (Cluster.numbered .primary 0).endpoint).map (·.executed)) =
        some ["SELECT 1"] := by
  decide +kernel

end Scenario
end Failover

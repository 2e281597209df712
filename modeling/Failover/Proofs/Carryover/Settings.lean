import Failover.Proofs.Network.ServerState
import Failover.Proofs.Session.RoutingKept

/-!
What carrying settings over achieves: where every statement of it succeeds and nobody else touches
the settings of either connection, the one has the settings that the other had.
-/
namespace Failover

def Connection.settings (c : Connection) :
    UInt32 × UInt32 × Bool × Option Isolation × Option String :=
  (c.maxRows, c.maxAllowedPacket, c.autocommit, c.isolation, c.database)

/-- A connection has the settings of another, as far as that one had any. -/
structure Connection.Carries (source dest : Connection) : Prop where
  maxRows : dest.maxRows = source.maxRows
  maxAllowedPacket : dest.maxAllowedPacket = source.maxAllowedPacket
  autocommit : dest.autocommit = source.autocommit
  isolation : ∀ level, source.isolation = some level → dest.isolation = some level
  database : ∀ name, source.database = some name → name ≠ "" → dest.database = some name

theorem Connection.Carries.congr {c d d' : Connection} (h : c.Carries d)
    (hd : d'.settings = d.settings) : c.Carries d' := by
  simp only [Connection.settings, Prod.mk.injEq] at hd
  obtain ⟨hrows, hpacket, hauto, hiso, hdb⟩ := hd
  exact ⟨hrows.trans h.maxRows, hpacket.trans h.maxAllowedPacket, hauto.trans h.autocommit,
    fun level hl => hiso.trans (h.isolation level hl),
    fun name hn hne => hdb.trans (h.database name hn hne)⟩

namespace Network

def Leaves (h : Handle) (n n' : Network) : Prop :=
  (n'.connection h).settings = (n.connection h).settings

theorem Leaves.of_eq {h : Handle} {n n' : Network} (he : n'.connections = n.connections) :
    Leaves h n n' := by
  rw [Leaves, connection, connection, he]

theorem leaves_updateConnection {f : Connection → Connection}
    (hf : ∀ c, (f c).settings = c.settings) (h h' : Handle) (n : Network) :
    Leaves h n (n.updateConnection h' f) :=
  view_updateConnection hf h' h n

end Network

namespace Carryover
open Network Routine
variable {ℓ κ : Type} {a b : Handle} {c : Connection} {t : List (Change Network)} {n : Network}

/-- Half way through: the one connection still has its settings, and the other has some of them. -/
structure Partly (a b : Handle) (c : Connection) (done : Connection → Prop) (n : Network) :
    Prop where
  opened : b < n.connections.size
  source : (n.connection a).settings = c.settings
  dest : done (n.connection b)

def BySettings (done : Connection → Prop) : Prop :=
  ∀ d d', Connection.settings d' = Connection.settings d → done d → done d'

def leaving (a b : Handle) : Rules Network :=
  ⟨fun n n' => n.Grows n' ∧ n.Leaves a n' ∧ n.Leaves b n', fun _ _ => True⟩

theorem Partly.others {done : Connection → Prop} (hdone : BySettings done) {n' : Network}
    (h : Partly a b c done n) (ho : n.Grows n' ∧ n.Leaves a n' ∧ n.Leaves b n') :
    Partly a b c done n' :=
  ⟨Nat.lt_of_lt_of_le h.opened ho.1, ho.2.1.trans h.source, hdone _ _ ho.2.2 h.dest⟩

theorem Partly.of_eq {done : Connection → Prop} {n' : Network} (h : Partly a b c done n)
    (he : n'.connections = n.connections) : Partly a b c done n' := by
  have hconn (x : Handle) : n'.connection x = n.connection x := by
    rw [connection, connection, he]
  exact ⟨by rw [he]; exact h.opened, by rw [hconn]; exact h.source, by rw [hconn]; exact h.dest⟩

theorem Partly.update {done more : Connection → Prop} {f : Connection → Connection} (hab : a ≠ b)
    (h : Partly a b c done n) (hf : ∀ d, done d → more (f d)) :
    Partly a b c more (n.updateConnection b f) := by
  refine ⟨by simpa using h.opened, ?_, ?_⟩
  · rw [connection_updateConnection_of_ne f n hab]
    exact h.source
  · rw [connection_updateConnection_self f h.opened]
    exact hf _ h.dest

theorem ensures_onHandle {α : Type} {k : Call} {real : Network → Except Error α × Network}
    {done more : Connection → Prop} (hdone : BySettings done) (h : Partly a b c done n)
    (hreal : ∀ n, Partly a b c done n → ∀ x, (real n).1 = .ok x →
      Partly a b c more (real n).2) :
    (Calls.onHandle k b none real : NetRoutine ℓ κ (Except Error α)).Ensures (leaving a b)
      (fun r _ n => ∀ x, r = .ok x → Partly a b c more n) t n := by
  refine ensures_bind.2 (ensures_read.2 fun now => ⟨trivial, ?_⟩)
  refine Calls.ensures_onHost (F := fun _ n => Partly a b c done n)
    (fun now' => ⟨trivial, fun t' n' ho => ?_⟩) (fun t' n' h now' => ⟨trivial, fun x hx => ?_⟩)
    (fun _ t' n' _ => ⟨?_, ?_⟩)
  · exact ho.preserves (P := fun _ n => Partly a b c done n) (fun _ _ _ _ h ho => h.others hdone ho)
      (h.of_eq (connections_meet _ k n))
  · exact hreal n' h x hx
  · intro e x hd
    cases hd
  · intro x hd
    cases hd

theorem ensures_setIsolation {done : Connection → Prop} (hab : a ≠ b) (hdone : BySettings done)
    (h : Partly a b c done n) (level : Isolation)
    (hf : ∀ d : Connection, done d → done { d with isolation := some level }) :
    (Calls.setIsolation b level : NetRoutine ℓ κ (Except Error Unit)).Ensures (leaving a b)
      (fun r _ n => ∀ x, r = .ok x →
        Partly a b c (fun d => done d ∧ d.isolation = some level) n) t n := by
  refine ensures_onHandle hdone h fun n h x hx => ?_
  unfold Network.setIsolation at hx ⊢
  split at hx
  · cases hx
  · rename_i s hs
    dsimp only
    exact Partly.update hab (h.of_eq rfl) fun d hd => ⟨hf d hd, rfl⟩

theorem ensures_selectDatabase {done : Connection → Prop} (hab : a ≠ b) (hdone : BySettings done)
    (h : Partly a b c done n) (name : String)
    (hf : ∀ d : Connection, done d → done { d with database := some name }) :
    (Calls.selectDatabase b name : NetRoutine ℓ κ (Except Error Unit)).Ensures (leaving a b)
      (fun r _ n => ∀ x, r = .ok x →
        Partly a b c (fun d => done d ∧ d.database = some name) n) t n := by
  refine ensures_onHandle hdone h fun n h x hx => ?_
  unfold Network.selectDatabase at hx ⊢
  split at hx
  · cases hx
  · rename_i s hs
    dsimp only
    exact Partly.update hab (h.of_eq rfl) fun d hd => ⟨hf d hd, rfl⟩

theorem command_autocommit (enabled : Bool) :
    String.ofList (keywords (Text.trimmed (autocommitStatement enabled))) =
      if enabled then "SET AUTOCOMMIT=1" else "SET AUTOCOMMIT=0" := by
  cases enabled <;> decide +kernel

theorem isWrite_autocommit (enabled : Bool) :
    isWrite (Text.trimmed (autocommitStatement enabled)) = false := by
  cases enabled <;> decide +kernel

theorem ensures_autocommit {done : Connection → Prop} (hab : a ≠ b) (hdone : BySettings done)
    (h : Partly a b c done n) (enabled : Bool)
    (hf : ∀ d : Connection, done d → done { d with autocommit := enabled }) :
    (Calls.execute b (autocommitStatement enabled) : NetRoutine ℓ κ _).Ensures (leaving a b)
      (fun r _ n => ∀ x, r = .ok x →
        Partly a b c (fun d => done d ∧ d.autocommit = enabled) n) t n := by
  refine ensures_onHandle hdone h fun n h x hx => ?_
  unfold Network.execute at hx ⊢
  split at hx
  · cases hx
  · rename_i s hs
    simp only [isWrite_autocommit, command_autocommit, Bool.false_and, Bool.false_eq_true,
      if_false]
    have hobey (d : Connection) (hd : done d) :
        done (d.obey (if enabled then "SET AUTOCOMMIT=1" else "SET AUTOCOMMIT=0")) ∧
          (d.obey (if enabled then "SET AUTOCOMMIT=1" else "SET AUTOCOMMIT=0")).autocommit =
            enabled := by
      have := hf d hd
      cases enabled <;> exact ⟨this, rfl⟩
    cases enabled <;> exact Partly.update hab (h.of_eq rfl) hobey

def Limited (c d : Connection) : Prop :=
  d.maxRows = c.maxRows ∧ d.maxAllowedPacket = c.maxAllowedPacket

def Leveled (c d : Connection) : Prop :=
  Limited c d ∧ ∀ level, c.isolation = some level → d.isolation = some level

def Placed (c d : Connection) : Prop :=
  Leveled c d ∧ ∀ name, c.database = some name → name ≠ "" → d.database = some name

theorem bySettings_limited (c : Connection) : BySettings (Limited c) := by
  intro d d' he hd
  simp only [Connection.settings, Prod.mk.injEq] at he
  exact ⟨he.1.trans hd.1, he.2.1.trans hd.2⟩

theorem bySettings_leveled (c : Connection) : BySettings (Leveled c) := by
  intro d d' he hd
  refine ⟨bySettings_limited c d d' he hd.1, fun level hl => ?_⟩
  simp only [Connection.settings, Prod.mk.injEq] at he
  exact he.2.2.2.1.trans (hd.2 level hl)

theorem bySettings_placed (c : Connection) : BySettings (Placed c) := by
  intro d d' he hd
  refine ⟨bySettings_leveled c d d' he hd.1, fun name hn hne => ?_⟩
  simp only [Connection.settings, Prod.mk.injEq] at he
  exact he.2.2.2.2.trans (hd.2 name hn hne)

theorem Placed.carries {d : Connection} (h : Placed c d) (ha : d.autocommit = c.autocommit) :
    c.Carries d :=
  ⟨h.1.1.1, h.1.1.2, ha, h.1.2, h.2⟩

/-- The last part of carrying settings over. -/
def syncMode (source dest : Handle) : NetRoutine ℓ κ (Except Error Unit) := do
  let (wanted, present) ← Routine.read fun _ n =>
    ((n.connection source).autocommit, (n.connection dest).autocommit)
  if wanted = present then return .ok ()
  else (Calls.execute dest (autocommitStatement wanted)).thenOk fun _ => return .ok ()

def syncPlace (source dest : Handle) : NetRoutine ℓ κ (Except Error Unit) := do
  let database ← Routine.read fun _ n => (n.connection source).database
  (Routine.onSome (database.filter (· ≠ "")) (Calls.selectDatabase dest)).thenOk fun _ =>
    syncMode source dest

theorem ensures_syncMode (hab : a ≠ b) (h : Partly a b c (Placed c) n) :
    (syncMode a b : NetRoutine ℓ κ (Except Error Unit)).Ensures (leaving a b)
      (fun r _ n' => r = .ok () → c.Carries (n'.connection b)) t n := by
  have hauto : (n.connection a).autocommit = c.autocommit := by
    have := h.source
    simp only [Connection.settings, Prod.mk.injEq] at this
    exact this.2.2.1
  refine ensures_bind.2 (ensures_read.2 fun now => ⟨trivial, ?_⟩)
  dsimp only
  split
  · rename_i he
    exact fun _ => h.dest.carries (he.symm.trans hauto)
  · refine ensures_thenOk.2 ((ensures_autocommit hab (bySettings_placed c) h _ fun d hd => hd).mono
      fun r t n hx => ?_)
    cases r with
    | error e => simp
    | ok x => exact fun _ => (hx x rfl).dest.1.carries ((hx x rfl).dest.2.trans hauto)

theorem ensures_syncPlace (hab : a ≠ b) (h : Partly a b c (Leveled c) n) :
    (syncPlace a b : NetRoutine ℓ κ (Except Error Unit)).Ensures (leaving a b)
      (fun r _ n' => r = .ok () → c.Carries (n'.connection b)) t n := by
  have hdatabase : (n.connection a).database = c.database := by
    have := h.source
    simp only [Connection.settings, Prod.mk.injEq] at this
    exact this.2.2.2.2
  refine ensures_bind.2 (ensures_read.2 fun now => ⟨trivial, ?_⟩)
  rw [hdatabase]
  refine ensures_thenOk.2 (ensures_onSome (fun hnone => ?_) fun name hname => ?_)
  · refine ensures_syncMode hab ⟨h.opened, h.source, h.dest, fun name hn hne => ?_⟩
    simp [hn, hne] at hnone
  · obtain ⟨hdb, -⟩ := Option.filter_eq_some_iff.1 hname
    refine (ensures_selectDatabase hab (bySettings_leveled c) h name fun d hd => hd).mono
      fun r t n hx => ?_
    cases r with
    | error e => simp
    | ok x =>
      have hp := hx x rfl
      refine ensures_syncMode hab ⟨hp.opened, hp.source, hp.dest.1, fun name' hn' _ => ?_⟩
      rw [hdb] at hn'
      exact hn' ▸ hp.dest.2

/-- A carryover that succeeds leaves the one connection with the settings of the other. -/
theorem ensures_sync (hab : a ≠ b) (hb : b < n.connections.size) :
    (sync a b : NetRoutine ℓ κ (Except Error Unit)).Ensures (leaving a b)
      (fun r _ n' => r = .ok () → (n.connection a).Carries (n'.connection b)) t n := by
  generalize hc : n.connection a = c
  refine ensures_bind.2 (ensures_change.2 fun now => ⟨trivial, ?_⟩)
  have hstart : Partly a b c (Limited c) (n.updateConnection b fun t =>
      { t with
        maxAllowedPacket := (n.connection a).maxAllowedPacket
        maxRows := (n.connection a).maxRows }) :=
    Partly.update hab (show Partly a b c (fun _ => True) n from ⟨hb, by rw [hc], trivial⟩)
      fun d _ => by
        rw [hc]
        exact ⟨rfl, rfl⟩
  generalize n.updateConnection b _ = n at hstart
  have hisolation : (n.connection a).isolation = c.isolation := by
    have := hstart.source
    simp only [Connection.settings, Prod.mk.injEq] at this
    exact this.2.2.2.1
  refine ensures_bind.2 (ensures_read.2 fun now => ⟨trivial, ?_⟩)
  rw [hisolation]
  refine ensures_thenOk.2 (ensures_onSome (fun hnone => ?_) fun l hl => ?_)
  · refine ensures_syncPlace hab ⟨hstart.opened, hstart.source, hstart.dest, fun l hl => ?_⟩
    rw [hl] at hnone
    cases hnone
  · refine (ensures_setIsolation hab (bySettings_limited c) hstart l fun d hd => hd).mono
      fun r t n hx => ?_
    cases r with
    | error e => simp
    | ok x =>
      have hp := hx x rfl
      refine ensures_syncPlace hab ⟨hp.opened, hp.source, hp.dest.1, fun l' hl' => ?_⟩
      rw [hl] at hl'
      exact hl' ▸ hp.dest.2

theorem command_readOnly (readOnly : Bool) :
    String.ofList (keywords (Text.trimmed (readOnlyStatement readOnly))) =
      if readOnly then "SET SESSION TRANSACTION READ ONLY"
      else "SET SESSION TRANSACTION READ WRITE" := by
  cases readOnly <;> decide +kernel

theorem leaves_execute_readOnly (h h' : Handle) (readOnly : Bool) (n : Network) :
    Leaves h n (n.execute h' (readOnlyStatement readOnly)).2 := by
  have hobey (c : Connection) : (c.obey (if readOnly then "SET SESSION TRANSACTION READ ONLY"
      else "SET SESSION TRANSACTION READ WRITE")).settings = c.settings := by
    cases readOnly <;> rfl
  unfold Network.execute
  split
  · exact .of_eq rfl
  · dsimp only
    split
    · exact .of_eq rfl
    · rw [command_readOnly]
      have hne : (if readOnly then "SET SESSION TRANSACTION READ ONLY"
          else "SET SESSION TRANSACTION READ WRITE") ≠ "SELECT @@SERVER_ID" := by
        cases readOnly <;> decide
      rw [if_neg hne]
      exact leaves_updateConnection hobey h h' (n.record h' _)

theorem leaves_setReadOnly (h h' : Handle) (readOnly : Bool) :
    (setReadOnly h' readOnly : NetRoutine ℓ κ (Except Error Unit)).Steps
      fun n n' => n.Grows n' ∧ n.Leaves h n' := by
  refine (steps_read fun n => ⟨Nat.le_refl _, .of_eq rfl⟩).bind fun knows => ?_
  split
  · refine Steps.thenOk ?_ fun _ => trivial
    refine Calls.steps_onHandle (fun n => ⟨Nat.le_refl _, .of_eq rfl⟩) (fun e n => ?_) fun n => ?_
    · exact ⟨grows_meet _ e n, .of_eq (connections_meet e _ n)⟩
    · exact ⟨Keeps.grows (keeps_execute h' _ n), leaves_execute_readOnly h h' readOnly n⟩
  · trivial

end Carryover
end Failover

import Failover.Carryover
import Failover.Health
import Failover.Proofs.Routine.Steps

/-!
Work on the network that opens and closes no connection: pings, checks, statements, and settings.
-/
namespace Failover

def Connection.link (c : Connection) : Host × Nat × Bool := (c.host, c.generation, c.closed)

theorem Connection.closed_of_link {c c' : Connection} (h : c'.link = c.link) :
    c'.closed = c.closed := by
  simp only [link, Prod.mk.injEq] at h
  exact h.2.2

theorem Connection.link_obey (command : String) (c : Connection) :
    (c.obey command).link = c.link := by
  unfold obey
  split <;> rfl

theorem Connection.readOnly_obey {command : String} (c : Connection)
    (hc : ∀ readOnly, command ≠ readOnlyStatement readOnly) :
    (c.obey command).readOnly = c.readOnly := by
  unfold Connection.obey
  split
  · rfl
  · rfl
  · rfl
  · rfl
  · rfl
  · rfl
  · exact (hc true rfl).elim
  · exact (hc false rfl).elim
  · rfl

def isDirective (sql : String) : Bool :=
  let command := String.ofList (keywords (Text.trimmed sql))
  command = readOnlyStatement true || command = readOnlyStatement false

theorem isDirective_autocommit (enabled : Bool) :
    isDirective (autocommitStatement enabled) = false := by
  cases enabled <;> decide +kernel

/-- The statements that callers give for an operation. -/
def Operation.given : Operation → List String
  | query sql => [sql]
  | batch statements => statements
  | _ => []

/-- An operation with which no caller changes whether writes are let through. -/
def Operation.Neutral (op : Operation) : Prop := ∀ sql ∈ op.given, isDirective sql = false

instance (op : Operation) : Decidable op.Neutral :=
  inferInstanceAs (Decidable (∀ sql ∈ op.given, isDirective sql = false))

namespace Network

@[simp] theorem size_updateConnection (h : Handle) (f : Connection → Connection) (n : Network) :
    (n.updateConnection h f).connections.size = n.connections.size := Array.size_modify ..

@[simp] theorem connections_updateBlacklist (r : Registry) (f : Blacklist → Blacklist)
    (n : Network) : (n.updateBlacklist r f).connections = n.connections := by
  cases r <;> rfl

theorem blacklist_updateBlacklist (r : Registry) (f : Blacklist → Blacklist) (n : Network) :
    (n.updateBlacklist r f).blacklist r = f (n.blacklist r) := by
  cases r <;> rfl

@[simp] theorem connections_meet (e : Endpoint) (c : Call) (n : Network) :
    (n.meet e c).2.connections = n.connections := by
  unfold meet
  split
  · rfl
  · split <;> rfl

theorem connection_updateConnection_self {h : Handle} {n : Network} (f : Connection → Connection)
    (hh : h < n.connections.size) : (n.updateConnection h f).connection h = f (n.connection h) := by
  simp [connection, updateConnection, hh, Array.getElem_modify_self]

theorem connection_updateConnection_of_ne {h h' : Handle} (f : Connection → Connection)
    (n : Network) (hne : h' ≠ h) :
    (n.updateConnection h f).connection h' = n.connection h' := by
  simp [connection, updateConnection, Array.getElem?_modify, Ne.symm hne]

theorem view_updateConnection {β : Type} {view : Connection → β} {f : Connection → Connection}
    (hf : ∀ c, view (f c) = view c) (h x : Handle) (n : Network) :
    view ((n.updateConnection h f).connection x) = view (n.connection x) := by
  by_cases hx : x = h
  · subst hx
    by_cases hsize : x < n.connections.size
    · rw [connection_updateConnection_self f hsize, hf]
    · simp [connection, updateConnection, hsize]
  · rw [connection_updateConnection_of_ne f n hx]

/-- No connection is opened, and none is closed. -/
structure Keeps (n n' : Network) : Prop where
  size : n'.connections.size = n.connections.size
  closed : ∀ h, (n'.connection h).closed = (n.connection h).closed

theorem Keeps.refl (n : Network) : Keeps n n := ⟨rfl, fun _ => rfl⟩

theorem Keeps.trans {n n' n'' : Network} (h : Keeps n n') (h' : Keeps n' n'') : Keeps n n'' :=
  ⟨h'.size.trans h.size, fun x => (h'.closed x).trans (h.closed x)⟩

theorem Keeps.of_eq {n n' : Network} (h : n'.connections = n.connections) : Keeps n n' :=
  ⟨by rw [h], fun x => by rw [connection, connection, h]⟩

theorem keeps_updateConnection {f : Connection → Connection} (hf : ∀ c, (f c).link = c.link)
    (h : Handle) (n : Network) : Keeps n (n.updateConnection h f) :=
  ⟨size_updateConnection h f n, fun x =>
    Connection.closed_of_link (view_updateConnection hf h x n)⟩

/-- Calls may meet trouble, statements may be noted, and settings may change, but not whether writes
are let through. -/
class AllowsCalls (ok : Network → Network → Prop) : Prop where
  refl : ∀ n, ok n n
  trans : ∀ {n n' n''}, ok n n' → ok n' n'' → ok n n''
  meet : ∀ c e n, ok n (n.meet e c).2
  record : ∀ h s n, ok n (n.record h s)
  settings : ∀ {f : Connection → Connection}, (∀ c, (f c).link = c.link) →
    (∀ c, (f c).readOnly = c.readOnly) → ∀ h n, ok n (n.updateConnection h f)

class AllowsSettings (ok : Network → Network → Prop) : Prop extends AllowsCalls ok where
  flags : ∀ {f : Connection → Connection}, (∀ c, (f c).link = c.link) →
    ∀ h n, ok n (n.updateConnection h f)

instance : AllowsCalls Keeps :=
  ⟨.refl, .trans, fun c e n => .of_eq (connections_meet e c n), fun _ _ _ => .of_eq rfl,
    fun hc _ => keeps_updateConnection hc⟩

instance : AllowsSettings Keeps := ⟨keeps_updateConnection⟩

section AllowsSettings
variable {ok : Network → Network → Prop}

theorem keeps_check [AllowsSettings ok] (h : Handle) (n : Network) : ok n (n.check h).2 := by
  unfold check
  split
  · exact AllowsCalls.refl n
  · refine AllowsSettings.flags ?_ h n
    intro c
    rfl

theorem keeps_execute_of [AllowsCalls ok] {h : Handle} {sql : String}
    (hobey : ∀ n, ok n (n.updateConnection h
      (·.obey (String.ofList (keywords (Text.trimmed sql)))))) (n : Network) :
    ok n (n.execute h sql).2 := by
  unfold execute
  split
  · exact AllowsCalls.refl n
  · dsimp only
    split
    · exact AllowsCalls.record h _ n
    · split
      · exact AllowsCalls.record h _ n
      · exact AllowsCalls.trans (AllowsCalls.record h _ n) (hobey _)

theorem keeps_execute [AllowsSettings ok] (h : Handle) (sql : String) (n : Network) :
    ok n (n.execute h sql).2 :=
  keeps_execute_of (fun n => AllowsSettings.flags (Connection.link_obey _) h n) n

theorem allows_execute [AllowsCalls ok] (h : Handle) {sql : String} (hsql : isDirective sql = false)
    (n : Network) : ok n (n.execute h sql).2 := by
  refine keeps_execute_of (fun n => AllowsCalls.settings (Connection.link_obey _) (fun c => ?_) h n) n
  have hd : ∀ readOnly, String.ofList (keywords (Text.trimmed sql)) ≠ readOnlyStatement readOnly := by
    simp only [isDirective, Bool.or_eq_false_iff, decide_eq_false_iff_not] at hsql
    intro readOnly
    cases readOnly with
    | true => exact hsql.1
    | false => exact hsql.2
  exact c.readOnly_obey hd

theorem keeps_note [AllowsCalls ok] {f : Connection → Connection} (hlink : ∀ c, (f c).link = c.link)
    (hreadOnly : ∀ c, (f c).readOnly = c.readOnly) (h : Handle) (statement : String) (n : Network) :
    ok n ((n.record h statement).updateConnection h f) :=
  AllowsCalls.trans (AllowsCalls.record h statement n) (AllowsCalls.settings hlink hreadOnly h _)

theorem keeps_setIsolation [AllowsCalls ok] (h : Handle) (level : Isolation) (n : Network) :
    ok n (n.setIsolation h level).2 := by
  unfold setIsolation
  split
  · exact AllowsCalls.refl n
  · exact keeps_note (fun c => by rfl) (fun c => by rfl) h _ n

theorem keeps_selectDatabase [AllowsCalls ok] (h : Handle) (name : String) (n : Network) :
    ok n (n.selectDatabase h name).2 := by
  unfold selectDatabase
  split
  · exact AllowsCalls.refl n
  · exact keeps_note (fun c => by rfl) (fun c => by rfl) h _ n

end AllowsSettings

end Network

namespace Calls
open Network Routine
variable {ℓ κ : Type}

theorem steps_onHost {ok : Network → Network → Prop} {α : Type} {c : Call} {host : Host}
    {no : Option α} {real : Network → Except Error α × Network}
    (meet : ∀ n, ok n (n.meet host.endpoint c).2) (call : ∀ n, ok n (real n).2) :
    (onHost c host no real : NetRoutine ℓ κ (Except Error α)).Steps ok := by
  refine (steps_transact fun _ => meet).bind fun met => ?_
  obtain ⟨delay, trouble⟩ := met
  refine (steps_pause delay).bind fun _ => ?_
  split
  · trivial
  · trivial
  · trivial
  · trivial
  · exact steps_transact fun _ => call

theorem steps_onHandle {ok : Network → Network → Prop} {α : Type} {c : Call} {h : Handle}
    {no : Option α} {real : Network → Except Error α × Network} (stay : ∀ n, ok n n)
    (meet : ∀ e n, ok n (n.meet e c).2) (call : ∀ n, ok n (real n).2) :
    (onHandle c h no real : NetRoutine ℓ κ (Except Error α)).Steps ok :=
  (steps_read stay).bind fun host => steps_onHost (meet host.endpoint) call

variable {ok : Network → Network → Prop}

theorem keeps_ping [AllowsCalls ok] (h : Handle) :
    (ping h : NetRoutine ℓ κ (Except Error Bool)).Steps ok :=
  steps_onHandle AllowsCalls.refl (AllowsCalls.meet _) AllowsCalls.refl

theorem keeps_check [AllowsSettings ok] (h : Handle) :
    (check h : NetRoutine ℓ κ (Except Error Bool)).Steps ok :=
  steps_onHandle AllowsCalls.refl (AllowsCalls.meet _) (Network.keeps_check h)

theorem keeps_execute [AllowsSettings ok] (h : Handle) (sql : String) :
    (execute h sql : NetRoutine ℓ κ (Except Error QueryResult)).Steps ok :=
  steps_onHandle AllowsCalls.refl (AllowsCalls.meet _) (Network.keeps_execute h sql)

theorem allows_execute [AllowsCalls ok] (h : Handle) {sql : String}
    (hsql : isDirective sql = false) :
    (execute h sql : NetRoutine ℓ κ (Except Error QueryResult)).Steps ok :=
  steps_onHandle AllowsCalls.refl (AllowsCalls.meet _) (Network.allows_execute h hsql)

theorem keeps_setIsolation [AllowsCalls ok] (h : Handle) (level : Isolation) :
    (setIsolation h level : NetRoutine ℓ κ (Except Error Unit)).Steps ok :=
  steps_onHandle AllowsCalls.refl (AllowsCalls.meet _) (Network.keeps_setIsolation h level)

theorem keeps_selectDatabase [AllowsCalls ok] (h : Handle) (name : String) :
    (selectDatabase h name : NetRoutine ℓ κ (Except Error Unit)).Steps ok :=
  steps_onHandle AllowsCalls.refl (AllowsCalls.meet _) (Network.keeps_selectDatabase h name)

theorem keeps_settings [AllowsSettings ok] {f : Network → Connection → Connection}
    (hf : ∀ n c, (f n c).link = c.link) (h : Handle) :
    (change fun _ n => n.updateConnection h (f n) : NetRoutine ℓ κ Unit).Steps ok :=
  steps_change fun _ n => AllowsSettings.flags (hf n) h n

theorem allows_settings [AllowsCalls ok] {f : Network → Connection → Connection}
    (hf : ∀ n c, (f n c).link = c.link) (hr : ∀ n c, (f n c).readOnly = c.readOnly)
    (h : Handle) : (change fun _ n => n.updateConnection h (f n) : NetRoutine ℓ κ Unit).Steps ok :=
  steps_change fun _ n => AllowsCalls.settings (hf n) (hr n) h n

theorem allows_role [AllowsCalls ok] (h : Handle) :
    (role false h : NetRoutine ℓ κ (Except Error Role)).Steps ok :=
  (steps_read AllowsCalls.refl).thenOk fun _ => trivial

theorem keeps_role [AllowsSettings ok] (discovered : Bool) (h : Handle) :
    (role discovered h : NetRoutine ℓ κ (Except Error Role)).Steps ok := by
  cases discovered with
  | true => exact (keeps_check h).thenOk fun _ => trivial
  | false => exact allows_role h

theorem keeps_invoke_of [AllowsCalls ok] (h : Handle) (op : Operation)
    (hsql : ∀ sql ∈ op.given,
      (execute h sql : NetRoutine ℓ κ (Except Error QueryResult)).Steps ok) :
    (invoke h op : NetRoutine ℓ κ (Except Error QueryResult)).Steps ok := by
  cases op with
  | query sql => exact hsql sql List.mem_cons_self
  | batch statements =>
    simp only [Operation.given] at hsql
    unfold invoke
    generalize QueryResult.empty = total
    induction statements generalizing total with
    | nil => trivial
    | cons sql rest ih =>
      obtain ⟨hfirst, hrest⟩ := List.forall_mem_cons.1 hsql
      exact hfirst.thenOk fun r => ih hrest (combine total r)
  | selectDatabase name => exact (keeps_selectDatabase h name).thenOk fun _ => trivial
  | setAutocommit enabled => exact allows_execute h (isDirective_autocommit enabled)
  | setIsolation level => exact (keeps_setIsolation h level).thenOk fun _ => trivial
  | setMaxRows max =>
    exact (allows_settings (fun _ _ => by rfl) (fun _ _ => by rfl) h).bind fun _ => trivial

theorem keeps_invoke [AllowsSettings ok] (h : Handle) (op : Operation) :
    (invoke h op : NetRoutine ℓ κ (Except Error QueryResult)).Steps ok :=
  keeps_invoke_of h op fun sql _ => keeps_execute h sql

theorem allows_invoke [AllowsCalls ok] (h : Handle) {op : Operation} (hop : op.Neutral) :
    (invoke h op : NetRoutine ℓ κ (Except Error QueryResult)).Steps ok :=
  keeps_invoke_of h op fun sql hsql => allows_execute h (hop sql hsql)

end Calls

namespace Carryover
open Network Routine
variable {ℓ κ : Type} {ok : Network → Network → Prop}

theorem keeps_sync [AllowsCalls ok] (source dest : Handle) :
    (sync source dest : NetRoutine ℓ κ (Except Error Unit)).Steps ok := by
  refine (Calls.allows_settings (fun _ _ => by rfl) (fun _ _ => by rfl) dest).bind fun _ => ?_
  refine (steps_read AllowsCalls.refl).bind fun isolation => ?_
  refine (steps_onSome fun level => Calls.keeps_setIsolation dest level).thenOk fun _ => ?_
  refine (steps_read AllowsCalls.refl).bind fun database => ?_
  refine (steps_onSome fun name => Calls.keeps_selectDatabase dest name).thenOk fun _ => ?_
  refine (steps_read AllowsCalls.refl).bind fun found => ?_
  obtain ⟨wanted, present⟩ := found
  dsimp only
  split
  · trivial
  · exact (Calls.allows_execute dest (isDirective_autocommit wanted)).thenOk fun _ => trivial

theorem keeps_setReadOnly [AllowsSettings ok] (h : Handle) (readOnly : Bool) :
    (setReadOnly h readOnly : NetRoutine ℓ κ (Except Error Unit)).Steps ok := by
  refine (steps_read AllowsCalls.refl).bind fun knows => ?_
  split
  · exact (Calls.keeps_execute h _).thenOk fun _ => trivial
  · trivial

end Carryover

namespace Health
open Network Routine
variable {ℓ κ : Type} {ok : Network → Network → Prop} [AllowsSettings ok]

theorem keeps_ofPrimary (h : Handle) : (ofPrimary h : NetRoutine ℓ κ Health).Steps ok := by
  refine (Calls.keeps_ping h).bind fun x => ?_
  rcases x with e | (_ | _)
  · trivial
  · trivial
  · refine (Calls.keeps_check h).bind fun y => ?_
    rcases y with e | (_ | _) <;> trivial

theorem keeps_ofPrimaryWithin (limit : Nat) (h : Handle) :
    (ofPrimaryWithin limit h : NetRoutine ℓ κ Health).Steps ok :=
  Steps.bind (Steps.cutAt (keeps_ofPrimary h) _) fun _ => trivial

end Health

end Failover

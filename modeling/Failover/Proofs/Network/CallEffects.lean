import Failover.Proofs.Network.UsableConnections
import Failover.Proofs.Carryover.Settings

/-!
What calls bring about while nobody else is at work. Over a usable connection the server is sent
the statements of an operation, up to the first that it refuses, and nothing else changes; over one
that is gone nothing changes at all.
-/
namespace Failover
open Routine

/-- What comes of an operation: its result, the statements that reach the server in order, and how
the connection stands after them. -/
structure Reply where
  result : Except Error QueryResult
  sent : List String
  connection : Connection

namespace Connection

/-- What a server answers to a statement. -/
def answer (s : Server) (c : Connection) (sql : String) : Reply :=
  let statement := Text.trimmed sql
  let command := String.ofList (keywords statement)
  if isWrite statement && (c.readOnly || !s.writable) then
    ⟨.error (.query ("host " ++ c.host.text ++ " is running with read-only option")), [statement], c⟩
  else if command = "SELECT @@SERVER_ID" then
    ⟨.ok (.scalar "@@server_id" (toString s.id)), [statement], c⟩
  else ⟨.ok (if isWrite statement then .affecting 1 else .empty), [statement], c.obey command⟩

/-- The same of statements in order, up to the first that is refused. -/
def answerAll (s : Server) : Connection → List String → QueryResult → Reply
  | c, [], total => ⟨.ok total, [], c⟩
  | c, sql :: rest, total =>
    let first := c.answer s sql
    match first.result with
    | .error e => ⟨.error e, first.sent, first.connection⟩
    | .ok r =>
      let others := first.connection.answerAll s rest (Calls.combine total r)
      { others with sent := first.sent ++ others.sent }

/-- What comes of an operation over a usable connection. -/
def perform (s : Server) (c : Connection) : Operation → Reply
  | .query sql => c.answer s sql
  | .batch statements => c.answerAll s statements .empty
  | .selectDatabase name => ⟨.ok .empty, ["USE " ++ name], { c with database := some name }⟩
  | .setAutocommit enabled => c.answer s (autocommitStatement enabled)
  | .setIsolation level =>
    ⟨.ok .empty, ["SET SESSION TRANSACTION ISOLATION LEVEL " ++ level.text],
      { c with isolation := some level }⟩
  | .setMaxRows max => ⟨.ok .empty, [], { c with maxRows := max }⟩

/-- What the server of one connection is sent to give it the settings of another. -/
def carried (source dest : Connection) : List String :=
  (source.isolation.toList.map fun level =>
      "SET SESSION TRANSACTION ISOLATION LEVEL " ++ level.text) ++
    (source.database.filter (· ≠ "")).toList.map ("USE " ++ ·) ++
    if source.autocommit = dest.autocommit then [] else [autocommitStatement source.autocommit]

/-- A connection with the settings of another, as far as that one had any. -/
def adopt (source dest : Connection) : Connection :=
  { dest with
    maxAllowedPacket := source.maxAllowedPacket
    maxRows := source.maxRows
    isolation := source.isolation <|> dest.isolation
    database := source.database.filter (· ≠ "") <|> dest.database
    autocommit := source.autocommit }

variable {s : Server} {c : Connection}

@[simp] theorem sent_answer (sql : String) : (c.answer s sql).sent = [Text.trimmed sql] := by
  unfold answer
  dsimp only
  split
  · rfl
  · split <;> rfl

theorem sent_answerAll (statements : List String) (total : QueryResult) :
    (c.answerAll s statements total).sent <+: statements.map Text.trimmed ∧
      ∀ r, (c.answerAll s statements total).result = .ok r →
        (c.answerAll s statements total).sent = statements.map Text.trimmed := by
  induction statements generalizing c total with
  | nil => exact ⟨List.nil_prefix, fun _ _ => rfl⟩
  | cons sql rest ih =>
    unfold answerAll
    dsimp only
    split
    · simp
    · rename_i r _
      obtain ⟨hinitial, hall⟩ := @ih (c.answer s sql).connection (Calls.combine total r)
      refine ⟨by simpa using hinitial, fun r hr => ?_⟩
      simp [hall r hr]

theorem sent_perform (op : Operation) :
    (c.perform s op).sent <+: op.statements ∧
      ∀ r, (c.perform s op).result = .ok r → (c.perform s op).sent = op.statements := by
  cases op with
  | query sql => simp [perform, Operation.statements]
  | batch statements => exact sent_answerAll statements .empty
  | setAutocommit enabled => simp [perform, Operation.statements]
  | _ => exact ⟨List.prefix_refl _, fun _ _ => rfl⟩

theorem answer_autocommit (enabled : Bool) :
    c.answer s (autocommitStatement enabled) =
      ⟨.ok .empty, [autocommitStatement enabled], { c with autocommit := enabled }⟩ := by
  have htrimmed : Text.trimmed (autocommitStatement enabled) = autocommitStatement enabled := by
    cases enabled <;> decide +kernel
  unfold answer
  dsimp only
  rw [Carryover.isWrite_autocommit, Carryover.command_autocommit, htrimmed]
  cases enabled <;> rfl

end Connection

def Server.noting (l : List String) (s : Server) : Server := { s with executed := s.executed ++ l }

theorem Cluster.update_noting (c : Cluster) (e : Endpoint) (l l' : List String) :
    (c.update e (·.noting l)).update e (·.noting l') = c.update e (·.noting (l ++ l')) := by
  obtain ⟨servers⟩ := c
  simp only [update, Cluster.mk.injEq, List.map_map]
  refine List.map_congr_left fun x _ => ?_
  by_cases hx : x.1 = e <;> simp [hx, Server.noting]

theorem Cluster.update_noting_nil (c : Cluster) (e : Endpoint) : c.update e (·.noting []) = c := by
  obtain ⟨servers⟩ := c
  simp [update, Server.noting]

namespace Network
variable {h : Handle} {n₀ n n' : Network} {l : List String} {c : Connection} {s : Server}

def Untroubled (e : Endpoint) (n : Network) : Prop :=
  ∀ k d, n.disturbances.lookup (e, k) = some d → d.times = 0 ∨ d.trouble = none

theorem untroubled_iff {e : Endpoint} : n.Untroubled e ↔ ∀ k, (n.meet e k).1.2 = none := by
  refine forall_congr' fun k => ?_
  unfold meet
  cases n.disturbances.lookup (e, k) with
  | none => simp
  | some d => by_cases hd : d.times = 0 <;> simp [hd]

/-- Disturbances that have worn off by one call are as they were, but shorter. -/
theorem exists_lookup_worn {e e' : Endpoint} {k k' : Call} {d : Disturbance}
    {l : List ((Endpoint × Call) × Disturbance)}
    (hl : (l.map fun x =>
      if x.1 = (e', k) then (x.1, { x.2 with times := x.2.times - 1 }) else x).lookup (e, k') =
        some d) :
    ∃ d₀, l.lookup (e, k') = some d₀ ∧ d.trouble = d₀.trouble ∧ (d₀.times = 0 → d.times = 0) := by
  induction l with
  | nil => cases hl
  | cons x xs ih =>
    obtain ⟨key, d₀⟩ := x
    by_cases hkey : (e, k') = key
    · subst hkey
      refine ⟨d₀, by simp, ?_⟩
      by_cases hsame : (e, k') = (e', k)
      · rw [List.map_cons, if_pos hsame, List.lookup_cons_self] at hl
        cases hl
        exact ⟨rfl, fun h0 => by simp [h0]⟩
      · rw [List.map_cons, if_neg hsame, List.lookup_cons_self] at hl
        cases hl
        exact ⟨rfl, id⟩
    · rw [List.lookup_cons, beq_false_of_ne hkey]
      refine ih ?_
      have hkeep : ((if key = (e', k) then (key, { d₀ with times := d₀.times - 1 })
          else (key, d₀)) : (Endpoint × Call) × Disturbance).1 = key := by
        split <;> rfl
      rwa [List.map_cons, List.lookup_cons, hkeep, beq_false_of_ne hkey] at hl

theorem untroubled_meet {e : Endpoint} (hn : n.Untroubled e) (e' : Endpoint) (k : Call) :
    (n.meet e' k).2.Untroubled e := by
  unfold meet
  split
  · exact hn
  · split
    · exact hn
    · intro k' d hd
      obtain ⟨d₀, hd₀, htrouble, htimes⟩ := exists_lookup_worn hd
      exact (hn k' d₀ hd₀).imp htimes fun h0 => htrouble.trans h0

theorem cluster_updateBlacklist (r : Registry) (f : Blacklist → Blacklist) (n : Network) :
    (n.updateBlacklist r f).cluster = n.cluster := by
  cases r <;> rfl

theorem untroubled_updateBlacklist {e : Endpoint} {r : Registry} {f : Blacklist → Blacklist} :
    (n.updateBlacklist r f).Untroubled e ↔ n.Untroubled e := by
  cases r <;> rfl

/-- Nothing has changed but the trouble that is left, which is no more. -/
structure Unaltered (n n' : Network) : Prop where
  connections : n'.connections = n.connections
  cluster : n'.cluster = n.cluster
  blacklist : ∀ r, n'.blacklist r = n.blacklist r
  calm : ∀ e, n.Untroubled e → n'.Untroubled e

theorem Unaltered.refl (n : Network) : Unaltered n n := ⟨rfl, rfl, fun _ => rfl, fun _ => id⟩

theorem unaltered_meet (e : Endpoint) (k : Call) (n : Network) : Unaltered n (n.meet e k).2 := by
  refine ⟨connections_meet e k n, Calls.cluster_meet e k n, fun r => ?_,
    fun e' he => untroubled_meet he e k⟩
  unfold meet
  split
  · rfl
  · split
    · rfl
    · cases r <;> rfl

theorem Unaltered.connection (hn : Unaltered n n') (x : Handle) :
    n'.connection x = n.connection x := by
  rw [Network.connection, Network.connection, hn.connections]

theorem Unaltered.server (hn : Unaltered n n') (x : Handle) : n'.server x = n.server x := by
  unfold Network.server
  rw [hn.connection, hn.cluster]

/-- Calls over a connection have had its server note these statements and left it as it is now, and
nothing else has changed. -/
structure Performed (h : Handle) (n₀ : Network) (l : List String) (c : Connection) (n : Network) :
    Prop where
  connection : n.connection h = c
  others : ∀ x ≠ h, n.connection x = n₀.connection x
  size : n.connections.size = n₀.connections.size
  cluster : n.cluster = n₀.cluster.update (n₀.connection h).host.endpoint (·.noting l)
  blacklist : ∀ r, n.blacklist r = n₀.blacklist r
  link : c.link = (n₀.connection h).link
  calm : n.Untroubled (n₀.connection h).host.endpoint

theorem performed_nothing (hn : n₀.Untroubled (n₀.connection h).host.endpoint) :
    Performed h n₀ [] (n₀.connection h) n₀ :=
  ⟨rfl, fun _ _ => rfl, rfl, (Cluster.update_noting_nil _ _).symm, fun _ => rfl, rfl, hn⟩

theorem Performed.unaltered (hn : Performed h n₀ l c n) (hu : Unaltered n n') :
    Performed h n₀ l c n' :=
  ⟨(hu.connection h).trans hn.connection, fun x hx => (hu.connection x).trans (hn.others x hx),
    (congrArg Array.size hu.connections).trans hn.size, hu.cluster.trans hn.cluster,
    fun r => (hu.blacklist r).trans (hn.blacklist r), hn.link, hu.calm _ hn.calm⟩

theorem Performed.host (hn : Performed h n₀ l c n) :
    (n.connection h).host = (n₀.connection h).host := by
  have hlink := hn.link
  simp only [Connection.link, Prod.mk.injEq] at hlink
  rw [hn.connection, hlink.1]

theorem Performed.server (hn : Performed h n₀ l c n) (hs : n₀.server h = .ok s) :
    n.server h = .ok (s.noting l) := by
  have hlink := hn.link
  simp only [Connection.link, Prod.mk.injEq] at hlink
  obtain ⟨hhost, hgeneration, hclosed⟩ := hlink
  unfold Network.server at hs ⊢
  dsimp only at hs ⊢
  rw [hn.connection, hhost, hgeneration, hclosed, hn.cluster, Cluster.find?_update_self]
  split at hs
  · cases hs
  · rename_i hopen
    rw [if_neg hopen]
    cases hfind : n₀.cluster.find? (n₀.connection h).host.endpoint with
    | none =>
      rw [hfind] at hs
      cases hs
    | some s' =>
      rw [hfind] at hs
      simp only [Option.map, Option.filter] at hs ⊢
      by_cases hup : (s'.up && s'.generation == (n₀.connection h).generation) = true
      · rw [if_pos hup] at hs
        cases hs
        rw [if_pos (by exact hup)]
      · rw [if_neg hup] at hs
        cases hs

theorem Performed.record (hn : Performed h n₀ l c n) (statement : String) :
    Performed h n₀ (l ++ [statement]) c (n.record h statement) := by
  refine ⟨hn.connection, hn.others, hn.size, ?_, hn.blacklist, hn.link, hn.calm⟩
  rw [← Cluster.update_noting, ← hn.cluster, Network.record, hn.host]
  rfl

theorem Performed.update (hn : Performed h n₀ l c n) (hh : h < n₀.connections.size)
    {f : Connection → Connection} (hf : ∀ c, (f c).link = c.link) :
    Performed h n₀ l (f c) (n.updateConnection h f) := by
  refine ⟨?_, fun x hx => ?_, (size_updateConnection h f n).trans hn.size, hn.cluster,
    hn.blacklist, (hf c).trans hn.link, hn.calm⟩
  · rw [connection_updateConnection_self f (hn.size ▸ hh), hn.connection]
  · rw [connection_updateConnection_of_ne f n hx, hn.others x hx]

theorem Performed.execute (hn : Performed h n₀ l c n) (hh : h < n₀.connections.size)
    (hs : n₀.server h = .ok s) (sql : String) :
    (n.execute h sql).1 = (c.answer s sql).result ∧
      Performed h n₀ (l ++ [Text.trimmed sql]) (c.answer s sql).connection (n.execute h sql).2 := by
  have hnoted := hn.record (Text.trimmed sql)
  have hobeyed := hnoted.update hh
    (Connection.link_obey (String.ofList (keywords (Text.trimmed sql))))
  unfold Network.execute Connection.answer
  rw [hn.server hs, hn.connection]
  dsimp only [Server.noting]
  by_cases hrefused : (isWrite (Text.trimmed sql) && (c.readOnly || !s.writable)) = true
  · rw [if_pos hrefused, if_pos hrefused]
    exact ⟨rfl, hnoted⟩
  · rw [if_neg hrefused, if_neg hrefused]
    by_cases hid : String.ofList (keywords (Text.trimmed sql)) = "SELECT @@SERVER_ID"
    · rw [if_pos hid, if_pos hid]
      exact ⟨rfl, hnoted⟩
    · rw [if_neg hid, if_neg hid]
      dsimp only
      exact ⟨rfl, hobeyed⟩

def Gone (h : Handle) (n : Network) : Prop := ∃ e, n.server h = .error e

theorem isConnectivity_of_server {e : Error} (he : n.server h = .error e) :
    e.isConnectivity = true := by
  unfold Network.server at he
  dsimp only at he
  split at he
  · cases he
    rfl
  · split at he
    · cases he
    · cases he
      rfl

end Network

abbrev Routine.unshared {σ : Type} : Rules σ := ⟨fun _ _ => False, fun _ _ => True⟩

theorem Amid.same {σ : Type} {t t' : List (Change σ)} {x x' : σ}
    (h : Amid (fun _ _ => False) t x t' x') : x' = x :=
  h.preserves (P := fun _ x' => x' = x) (fun _ _ _ _ _ hf => hf.elim) rfl

namespace Calls
open Network
variable {ℓ κ α : Type} {h : Handle} {n₀ n : Network} {l : List String} {c : Connection}
  {s : Server} {t : List (Change Network)}

theorem performed_onHandle {k : Call} {no : Option α} {real : Network → Except Error α × Network}
    {Q : Except Error α → Network → Prop} (hn : Performed h n₀ l c n)
    (hreal : ∀ n, Performed h n₀ l c n → Q (real n).1 (real n).2) :
    (onHandle k h no real : NetRoutine ℓ κ (Except Error α)).Ensures unshared
      (fun x _ n' => Q x n') t n := by
  refine ensures_bind.2 (ensures_read.2 fun now => ⟨trivial, ?_⟩)
  rw [hn.host]
  refine ensures_onHost (F := fun _ n' => Performed h n₀ l c n')
    (fun now' => ⟨trivial, fun t' n' ho => ?_⟩)
    (fun t' n' hn' now' => ⟨trivial, hreal n' hn'⟩)
    (fun htrouble => (htrouble (untroubled_iff.1 hn.calm k)).elim)
  rw [Amid.same ho]
  exact hn.unaltered (unaltered_meet _ k n)

theorem performed_ping (hn : Performed h n₀ l c n) (hs : n₀.server h = .ok s) :
    (ping h : NetRoutine ℓ κ (Except Error Bool)).Ensures unshared
      (fun x _ n' => x = .ok true ∧ Performed h n₀ l c n') t n := by
  refine performed_onHandle hn fun n hn => ⟨?_, hn⟩
  rw [Network.ping, hn.server hs]
  rfl

theorem performed_execute (hn : Performed h n₀ l c n) (hh : h < n₀.connections.size)
    (hs : n₀.server h = .ok s) (sql : String) :
    (execute h sql : NetRoutine ℓ κ (Except Error QueryResult)).Ensures unshared
      (fun x _ n' => x = (c.answer s sql).result ∧
        Performed h n₀ (l ++ (c.answer s sql).sent) (c.answer s sql).connection n') t n := by
  rw [Connection.sent_answer]
  exact performed_onHandle hn fun n hn => hn.execute hh hs sql

theorem performed_executeAll (hn : Performed h n₀ l c n) (hh : h < n₀.connections.size)
    (hs : n₀.server h = .ok s) (statements : List String) (total : QueryResult) :
    (executeAll h statements total : NetRoutine ℓ κ (Except Error QueryResult)).Ensures unshared
      (fun x _ n' => x = (c.answerAll s statements total).result ∧
        Performed h n₀ (l ++ (c.answerAll s statements total).sent)
          (c.answerAll s statements total).connection n') t n := by
  induction statements generalizing l c t n total with
  | nil =>
    rw [show (c.answerAll s [] total).sent = [] from rfl, List.append_nil]
    exact ⟨rfl, hn⟩
  | cons sql rest ih =>
    unfold Connection.answerAll
    have hfirst := performed_execute (ℓ := ℓ) (κ := κ) (t := t) hn hh hs sql
    generalize c.answer s sql = first at hfirst ⊢
    refine ensures_thenOk.2 (hfirst.mono fun x t n hx => ?_)
    obtain ⟨rfl, hn⟩ := hx
    dsimp only
    cases hr : first.result with
    | error e => exact ⟨rfl, hn⟩
    | ok r =>
      refine (ih hn (combine total r)).mono fun x t n hx => ?_
      rwa [List.append_assoc] at hx

theorem performed_selectDatabase (hn : Performed h n₀ l c n) (hh : h < n₀.connections.size)
    (hs : n₀.server h = .ok s) (name : String) :
    (selectDatabase h name : NetRoutine ℓ κ (Except Error Unit)).Ensures unshared
      (fun x _ n' => x = .ok () ∧
        Performed h n₀ (l ++ ["USE " ++ name]) { c with database := some name } n') t n := by
  refine performed_onHandle hn fun n hn => ?_
  rw [Network.selectDatabase, hn.server hs]
  exact ⟨rfl, (hn.record _).update hh (f := fun c => { c with database := some name }) fun _ => rfl⟩

theorem performed_setIsolation (hn : Performed h n₀ l c n) (hh : h < n₀.connections.size)
    (hs : n₀.server h = .ok s) (level : Isolation) :
    (setIsolation h level : NetRoutine ℓ κ (Except Error Unit)).Ensures unshared
      (fun x _ n' => x = .ok () ∧
        Performed h n₀ (l ++ ["SET SESSION TRANSACTION ISOLATION LEVEL " ++ level.text])
          { c with isolation := some level } n') t n := by
  refine performed_onHandle hn fun n hn => ?_
  rw [Network.setIsolation, hn.server hs]
  exact ⟨rfl, (hn.record _).update hh (f := fun c => { c with isolation := some level })
    fun _ => rfl⟩

/-- An operation over a usable connection is performed, and brings about nothing else. -/
theorem performed_invoke (hn : Performed h n₀ l c n) (hh : h < n₀.connections.size)
    (hs : n₀.server h = .ok s) (op : Operation) :
    (invoke h op : NetRoutine ℓ κ (Except Error QueryResult)).Ensures unshared
      (fun x _ n' => x = (c.perform s op).result ∧
        Performed h n₀ (l ++ (c.perform s op).sent) (c.perform s op).connection n') t n := by
  cases op with
  | query sql => exact performed_execute hn hh hs sql
  | batch statements => exact performed_executeAll hn hh hs statements .empty
  | selectDatabase name =>
    refine ensures_thenOk.2 ((performed_selectDatabase hn hh hs name).mono fun x t n hx => ?_)
    obtain ⟨rfl, hn⟩ := hx
    exact ⟨rfl, hn⟩
  | setAutocommit enabled => exact performed_execute hn hh hs _
  | setIsolation level =>
    refine ensures_thenOk.2 ((performed_setIsolation hn hh hs level).mono fun x t n hx => ?_)
    obtain ⟨rfl, hn⟩ := hx
    exact ⟨rfl, hn⟩
  | setMaxRows max =>
    refine ensures_bind.2 (ensures_change.2 fun now => ⟨trivial, rfl, ?_⟩)
    rw [show (c.perform s (.setMaxRows max)).sent = [] from rfl, List.append_nil]
    exact hn.update hh (f := fun c => { c with maxRows := max }) fun _ => rfl

theorem unaltered_onHandle {k : Call} {no : Option α} {real : Network → Except Error α × Network}
    {e : Error} (hn : n.server h = .error e)
    (hreal : ∀ n e, n.server h = .error e → real n = (.error e, n)) :
    (onHandle k h no real : NetRoutine ℓ κ (Except Error α)).Ensures unshared
      (fun x _ n' => (∀ a, x = .ok a → no = some a) ∧
        (n.Untroubled (n.connection h).host.endpoint → x = .error e) ∧ Unaltered n n') t n := by
  refine ensures_bind.2 (ensures_read.2 fun now => ⟨trivial, ?_⟩)
  refine ensures_onHost (F := fun _ n' => Unaltered n n')
    (fun now' => ⟨trivial, fun t' n' ho => ?_⟩)
    (fun t' n' hu now' => ⟨trivial, ?_⟩) fun htrouble t' n' hu => ?_
  · rw [Amid.same ho]
    exact unaltered_meet _ k n
  · rw [hreal n' e ((hu.server h).trans hn)]
    exact ⟨nofun, fun _ => rfl, hu⟩
  · have hnot : ¬n.Untroubled (n.connection h).host.endpoint :=
      fun hcalm => htrouble (untroubled_iff.1 hcalm k)
    refine ⟨fun _ => ⟨nofun, fun hcalm => (hnot hcalm).elim, hu⟩, fun a ha =>
      ⟨fun b hb => ?_, fun hcalm => (hnot hcalm).elim, hu⟩⟩
    cases hb
    exact ha

theorem unaltered_ping (hn : Gone h n) :
    (ping h : NetRoutine ℓ κ (Except Error Bool)).Ensures unshared
      (fun x _ n' => x ≠ .ok true ∧ Unaltered n n') t n := by
  obtain ⟨e, hn⟩ := hn
  refine (unaltered_onHandle hn fun n e he => ?_).mono fun x _ n' hx => ⟨fun hd => ?_, hx.2.2⟩
  · rw [Network.ping, he]
    rfl
  · cases hx.1 true hd

theorem unaltered_execute {e : Error} (hn : n.server h = .error e) (sql : String) :
    (execute h sql : NetRoutine ℓ κ (Except Error QueryResult)).Ensures unshared
      (fun x _ n' => (∃ e, x = .error e) ∧
        (n.Untroubled (n.connection h).host.endpoint → x = .error e) ∧ Unaltered n n') t n := by
  refine (unaltered_onHandle hn fun n e he => ?_).mono fun x _ n' hx => ⟨?_, hx.2⟩
  · rw [Network.execute, he]
  · cases x with
    | error e => exact ⟨e, rfl⟩
    | ok r => cases hx.1 r rfl

/-- An operation that fails over a connection that is gone has changed nothing. -/
theorem unaltered_invoke (hn : Gone h n) (op : Operation) :
    (invoke h op : NetRoutine ℓ κ (Except Error QueryResult)).Ensures unshared
      (fun x _ n' => (∃ e, x = .error e) → Unaltered n n') t n := by
  obtain ⟨e, hn⟩ := hn
  cases op with
  | query sql => exact (unaltered_execute hn sql).mono fun _ _ _ hx _ => hx.2.2
  | batch statements =>
    cases statements with
    | nil => exact fun _ => .refl n
    | cons sql rest =>
      refine ensures_thenOk.2 ((unaltered_execute hn sql).mono fun x t n' hx => ?_)
      obtain ⟨⟨e, rfl⟩, -, hu⟩ := hx
      exact fun _ => hu
  | selectDatabase name =>
    refine ensures_thenOk.2 ((unaltered_onHandle hn fun n e he => ?_).mono fun x t n' hx => ?_)
    · rw [Network.selectDatabase, he]
    · cases x <;> exact fun _ => hx.2.2
  | setAutocommit enabled => exact (unaltered_execute hn _).mono fun _ _ _ hx _ => hx.2.2
  | setIsolation level =>
    refine ensures_thenOk.2 ((unaltered_onHandle hn fun n e he => ?_).mono fun x t n' hx => ?_)
    · rw [Network.setIsolation, he]
    · cases x <;> exact fun _ => hx.2.2
  | setMaxRows max =>
    refine ensures_bind.2 (ensures_change.2 fun now => ⟨trivial, fun hd => ?_⟩)
    obtain ⟨e, he⟩ := hd
    cases he

end Calls

namespace Carryover
open Network Calls
variable {ℓ κ : Type} {a h : Handle} {n₀ n : Network} {l : List String} {c : Connection}
  {s : Server} {t : List (Change Network)}

theorem performed_syncMode (hn : Performed h n₀ l c n) (hh : h < n₀.connections.size)
    (hs : n₀.server h = .ok s) (ha : a ≠ h) :
    (syncMode a h : NetRoutine ℓ κ (Except Error Unit)).Ensures unshared
      (fun x _ n' => x = .ok () ∧ Performed h n₀
        (l ++ if (n₀.connection a).autocommit = c.autocommit then []
          else [autocommitStatement (n₀.connection a).autocommit])
        { c with autocommit := (n₀.connection a).autocommit } n') t n := by
  refine ensures_bind.2 (ensures_read.2 fun now => ⟨trivial, ?_⟩)
  rw [hn.others a ha, hn.connection]
  dsimp only
  split
  · rename_i hsame
    rw [hsame, List.append_nil]
    exact ⟨rfl, hn⟩
  · have hexecute := performed_execute (ℓ := ℓ) (κ := κ) (t := ⟨true, now, n, n⟩ :: t) hn hh hs
      (autocommitStatement (n₀.connection a).autocommit)
    rw [Connection.answer_autocommit] at hexecute
    refine ensures_thenOk.2 (hexecute.mono fun x t n hx => ?_)
    obtain ⟨rfl, hn⟩ := hx
    exact ⟨rfl, hn⟩

theorem performed_syncPlace (hn : Performed h n₀ l c n) (hh : h < n₀.connections.size)
    (hs : n₀.server h = .ok s) (ha : a ≠ h) :
    (syncPlace a h : NetRoutine ℓ κ (Except Error Unit)).Ensures unshared
      (fun x _ n' => x = .ok () ∧ Performed h n₀
        (l ++ ((n₀.connection a).database.filter (· ≠ "")).toList.map ("USE " ++ ·) ++
          if (n₀.connection a).autocommit = c.autocommit then []
            else [autocommitStatement (n₀.connection a).autocommit])
        { c with
          database := (n₀.connection a).database.filter (· ≠ "") <|> c.database
          autocommit := (n₀.connection a).autocommit } n') t n := by
  refine ensures_bind.2 (ensures_read.2 fun now => ⟨trivial, ?_⟩)
  rw [hn.others a ha]
  cases (n₀.connection a).database.filter (· ≠ "") with
  | none =>
    rw [show l ++ (none : Option String).toList.map ("USE " ++ ·) = l by simp]
    exact performed_syncMode hn hh hs ha
  | some name =>
    refine ensures_thenOk.2 ((performed_selectDatabase hn hh hs name).mono fun x t n hx => ?_)
    obtain ⟨rfl, hn⟩ := hx
    exact performed_syncMode hn hh hs ha

/-- The settings of a connection are carried over to a usable one, whose server is sent no more than
that takes. -/
theorem performed_sync (hn : Performed h n₀ l c n) (hh : h < n₀.connections.size)
    (hs : n₀.server h = .ok s) (ha : a ≠ h) :
    (sync a h : NetRoutine ℓ κ (Except Error Unit)).Ensures unshared
      (fun x _ n' => x = .ok () ∧ Performed h n₀ (l ++ (n₀.connection a).carried c)
        ((n₀.connection a).adopt c) n') t n := by
  refine ensures_bind.2 (ensures_change.2 fun now => ⟨trivial, ?_⟩)
  have hlimits := hn.update hh (f := fun c => { c with
    maxAllowedPacket := (n₀.connection a).maxAllowedPacket
    maxRows := (n₀.connection a).maxRows }) fun _ => rfl
  dsimp only
  rw [hn.others a ha]
  refine ensures_bind.2 (ensures_read.2 fun now' => ⟨trivial, ?_⟩)
  rw [hlimits.others a ha]
  unfold Connection.carried Connection.adopt
  rw [List.append_assoc, ← List.append_assoc]
  cases (n₀.connection a).isolation with
  | none =>
    rw [show l ++ (none : Option Isolation).toList.map (fun level =>
      "SET SESSION TRANSACTION ISOLATION LEVEL " ++ level.text) = l by simp, ← List.append_assoc]
    exact performed_syncPlace hlimits hh hs ha
  | some level =>
    refine ensures_thenOk.2 ((performed_setIsolation hlimits hh hs level).mono fun x t n hx => ?_)
    obtain ⟨rfl, hn⟩ := hx
    rw [← List.append_assoc]
    exact performed_syncPlace hn hh hs ha

end Carryover
end Failover

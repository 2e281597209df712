import Failover.Proofs.Session.Statements
import Failover.Session.Service

/-!
How often an operation is sent. Of all that a session does on a failure only a relaunch sends
anything, it comes last, and it is not reached twice.
-/
namespace Failover.Act
open Desk Routine
open Carryover (Replay)

/-- After nothing else the operation is sent over a connection, which gives an answer. -/
def Sent (others : Desk → Desk → Prop) (op : Operation) (h : Handle)
    (r : Except Error QueryResult) (t t' : List (Change Desk)) : Prop :=
  ∃ t₁ d₁ d', Quiet t t₁ ∧ (invoke h op).Plays others t₁ d₁ r t' d'

def lost : Except Error QueryResult → Bool
  | .error e => e.isConnectivity
  | .ok _ => false

def retold (r : Except Error QueryResult) : Replay := if lost r then .unrecovered else .replayed r

/-- Either the operation is not sent, or it may be sent twice and its answer is passed on. -/
inductive Sequel (others : Desk → Desk → Prop) (op : Option Operation) (t t' : List (Change Desk)) :
    Replay → Prop
  | unsent {x : Replay} : x.isReplayed = false → Quiet t t' → Sequel others op t t' x
  | sent {o : Operation} {h : Handle} {r : Except Error QueryResult} :
      op = some o → o.isReplayable = true → Sent others o h r t t' →
      Sequel others op t t' (retold r)

section Sequel
variable {others : Desk → Desk → Prop} {t₀ t : List (Change Desk)} {d : Desk}
  {op : Option Operation}

theorem ensures_invoke (h : Handle) (o : Operation) (hq : Quiet t₀ t) :
    (invoke h o).Ensures (anything others) (fun r t' _ => Sent others o h r t₀ t') t d := by
  have hsteps : (invoke h o).Steps fun _ _ => True :=
    (steps_change fun _ _ => trivial).bind fun _ =>
      (steps_onNetwork (Calls.keeps_invoke h o).grows).mono fun _ _ _ => trivial
  have hfree : (invoke h o).Ensures (anything others) (fun _ _ _ => True) t d :=
    hsteps.ensures (fun _ _ _ _ _ _ => trivial) (fun _ _ _ _ _ _ => ⟨trivial, trivial⟩) trivial
  exact hfree.and_plays.mono fun r t' d' hp => ⟨t, d, d', hq, hp.2⟩

theorem ensures_relaunch (h : Handle) (hq : Quiet t₀ t) :
    (relaunch op h).Ensures (anything others) (fun x t' _ => Sequel others op t₀ t' x) t d := by
  unfold relaunch Carryover.relaunch
  split
  · exact .unsent rfl hq
  · rename_i o ho
    obtain ⟨hop, hrep⟩ := Option.filter_eq_some_iff.1 ho
    refine (ensures_invoke h o hq).bind fun r t' d' hsent => ?_
    have hseq := Sequel.sent hop hrep hsent
    cases r with
    | ok r => exact hseq
    | error e =>
      dsimp only
      rw [ensures_pure]
      exact hseq

theorem ensures_relaunchOnCurrent (hq : Quiet t₀ t) :
    (relaunchOnCurrent op).Ensures (anything others) (fun x t' _ => Sequel others op t₀ t' x)
      t d := by
  refine (ensures_quiet unsent_session hq).bind fun s t' d' hq => ?_
  split
  · exact ensures_relaunch _ hq
  · exact .unsent rfl hq

theorem ensures_giveUp (hq : Quiet t₀ t) :
    (giveUp : Act Replay).Ensures (anything others) (fun x t' _ => Sequel others op t₀ t' x) t d :=
  (ensures_quiet (unsent_of_coreUnsent (steps_armRetry 0)) hq).bind fun _ _ _ hq => .unsent rfl hq

theorem ensures_carryOn (h : Handle) (hq : Quiet t₀ t) :
    (carryOn op h).Ensures (anything others) (fun x t' _ => Sequel others op t₀ t' x) t d :=
  (ensures_quiet (unsent_of_coreUnsent (steps_armRetry 0)) hq).bind
    fun _ _ _ hq => ensures_relaunch h hq

theorem ensures_searchSingle (failed : Option Handle) (hq : Quiet t₀ t) :
    (searchSingle op failed).Ensures (anything others) (fun x t' _ => Sequel others op t₀ t' x)
      t d := by
  refine (ensures_quiet (unsent_of_coreUnsent (steps_inTransaction failed)) hq).bind
    fun busy t d hq => ?_
  split
  · exact ensures_giveUp hq
  · refine (ensures_quiet unsent_reconnectSingle hq).bind fun x t d hq => ?_
    cases x with
    | ok _ => exact ensures_relaunchOnCurrent hq
    | error e => exact ensures_giveUp hq

theorem ensures_replaceSingle (failed : Option Handle) (hq : Quiet t₀ t) :
    (replaceSingle op failed).Ensures (anything others) (fun x t' _ => Sequel others op t₀ t' x)
      t d := by
  refine (ensures_quiet unsent_session hq).bind fun s t d hq => ?_
  split
  · exact ensures_when (fun _ => ensures_quiet (steps_pause _) hq) (fun _ => hq)
      fun _ _ hq => ensures_searchSingle failed hq
  · exact ensures_giveUp hq

theorem ensures_primaryFailSingle (hq : Quiet t₀ t) :
    (primaryFailSingle op).Ensures (anything others) (fun x t' _ => Sequel others op t₀ t' x)
      t d := by
  refine (ensures_quiet unsent_session hq).bind fun s t d hq => ?_
  refine (ensures_quiet (unsent_of_coreUnsent (steps_answering s.primary)) hq).bind
    fun alive t d hq => ?_
  cases alive with
  | some h =>
    exact (ensures_quiet (unsent_of_routeUnsent (steps_primaryRecovered h)) hq).bind fun _ _ _ hq =>
      ensures_relaunch h hq
  | none =>
    exact (ensures_quiet (steps_forM fun h => unsent_of_routeUnsent (steps_failPrimary h)) hq).bind
      fun _ _ _ hq => ensures_replaceSingle _ hq

theorem ensures_fallBackToSecondary (failed : Option Handle) (hq : Quiet t₀ t) :
    (fallBackToSecondary op failed).Ensures (anything others)
      (fun x t' _ => Sequel others op t₀ t' x) t d := by
  refine (ensures_quiet unsent_session hq).bind fun s t d hq => ?_
  split
  · exact ensures_giveUp hq
  · split
    · exact ensures_giveUp hq
    · rename_i h _
      refine (ensures_quiet (unsent_onNetwork (Calls.keeps_ping h).grows) hq).bind fun x t d hq => ?_
      split
      · exact ensures_when (fun _ => ensures_quiet (unsent_turnTo .secondary failed h) hq)
          (fun _ => hq) fun _ _ hq => ensures_carryOn h hq
      · exact ensures_giveUp hq
      · exact (ensures_quiet (unsent_of_routeUnsent (steps_failSecondary h)) hq).bind
          fun _ _ _ hq => ensures_giveUp hq

theorem ensures_replacePrimary (failed : Option Handle) (hq : Quiet t₀ t) :
    (replacePrimary op failed).Ensures (anything others)
      (fun x t' _ => Sequel others op t₀ t' x) t d := by
  refine (ensures_quiet unsent_session hq).bind fun s t d hq => ?_
  refine (ensures_quiet (unsent_of_coreUnsent (steps_inTransaction failed)) hq).bind
    fun busy t d hq => ?_
  split
  · refine (ensures_quiet unsent_reconnectReplicated.discard hq).bind fun _ t d hq => ?_
    refine (ensures_quiet unsent_session hq).bind fun s t d hq => ?_
    split
    · exact ensures_fallBackToSecondary failed hq
    · exact ensures_relaunchOnCurrent hq
  · exact ensures_fallBackToSecondary failed hq

theorem ensures_primaryFailReplicated (probe : Bool) (hq : Quiet t₀ t) :
    (primaryFailReplicated op probe).Ensures (anything others)
      (fun x t' _ => Sequel others op t₀ t' x) t d := by
  refine (ensures_quiet unsent_session hq).bind fun s t d hq => ?_
  refine (ensures_quiet (unsent_of_coreUnsent (steps_answering _)) hq).bind fun alive t d hq => ?_
  cases alive with
  | some h =>
    exact (ensures_quiet (unsent_of_routeUnsent (steps_primaryRecovered h)) hq).bind fun _ _ _ hq =>
      ensures_relaunchOnCurrent hq
  | none =>
    exact (ensures_quiet (steps_forM fun h => unsent_of_routeUnsent (steps_failPrimary h)) hq).bind
      fun _ _ _ hq => ensures_replacePrimary _ hq

theorem ensures_replaceSecondary (hq : Quiet t₀ t) :
    (replaceSecondary op).Ensures (anything others) (fun x t' _ => Sequel others op t₀ t' x)
      t d := by
  refine (ensures_quiet unsent_session hq).bind fun s t d hq => ?_
  split
  · refine (ensures_quiet unsent_reconnectReplicated.discard hq).bind fun _ t d hq => ?_
    refine (ensures_quiet unsent_session hq).bind fun s t d hq => ?_
    refine ensures_when (fun _ => ensures_quiet (unsent_of_coreUnsent (steps_armRetry _)) hq)
      (fun _ => hq) fun t d hq => ?_
    split
    · exact .unsent rfl hq
    · exact ensures_relaunchOnCurrent hq
  · exact ensures_giveUp hq

theorem ensures_secondaryFailReplicated (hq : Quiet t₀ t) :
    (secondaryFailReplicated op).Ensures (anything others)
      (fun x t' _ => Sequel others op t₀ t' x) t d := by
  refine (ensures_quiet unsent_session hq).bind fun s t d hq => ?_
  refine (ensures_quiet (unsent_of_coreUnsent (steps_answering s.secondary)) hq).bind
    fun alive t d hq => ?_
  cases alive with
  | some h =>
    exact (ensures_quiet (unsent_of_routeUnsent (steps_secondaryRecovered h)) hq).bind fun _ _ _ hq =>
      ensures_relaunchOnCurrent hq
  | none =>
    refine (ensures_quiet (steps_forM fun h => unsent_of_routeUnsent (steps_failSecondary h)) hq).bind
      fun _ t d hq => ?_
    refine (ensures_quiet unsent_session hq).bind fun s' t d hq => ?_
    split
    · exact ensures_replaceSecondary hq
    · split
      · exact ensures_replaceSecondary hq
      · rename_i p _
        refine (ensures_quiet (unsent_onNetwork (Calls.keeps_ping p).grows) hq).bind fun x t d hq => ?_
        split
        · exact (ensures_quiet (unsent_turnTo .primary _ p) hq).bind
            fun _ _ _ hq => ensures_carryOn p hq
        · exact ensures_replaceSecondary hq
        · exact (ensures_quiet (unsent_of_routeUnsent (steps_failPrimary p)) hq).bind fun _ _ _ hq =>
            ensures_replaceSecondary hq

theorem ensures_recover (failed : Handle) (hq : Quiet t₀ t) :
    (recover failed op).Ensures (anything others) (fun x t' _ => Sequel others op t₀ t' x)
      t d := by
  refine (ensures_quiet unsent_session hq).bind fun s t d hq => ?_
  cases s.active with
  | primary =>
    refine (ensures_quiet (unsent_of_routeUnsent (steps_recordFailure failed op)) hq).bind
      fun _ t d hq => ?_
    split
    · exact ensures_primaryFailSingle hq
    · exact ensures_primaryFailReplicated true hq
  | secondary =>
    refine (ensures_quiet (unsent_of_routeUnsent (steps_failSecondary failed)) hq).bind
      fun _ t d hq => ?_
    split
    · exact .unsent rfl hq
    · exact ensures_secondaryFailReplicated hq

/-- In the whole of a failover the operation is sent once at most. -/
theorem ensures_handleFailover (failed : Handle) (hq : Quiet t₀ t) :
    (handleFailover failed op).Ensures (anything others)
      (fun x t' _ => Sequel others op t₀ t' x) t d := by
  refine (ensures_quiet unsent_session hq).bind fun s t d hq => ?_
  split
  · exact .unsent rfl hq
  · split
    · exact ensures_recover failed hq
    · exact ensures_relaunch _ hq

end Sequel

theorem sendings_of_sent {others : Desk → Desk → Prop} {op : Operation} {h : Handle}
    {r : Except Error QueryResult} {t t' : List (Change Desk)} (hs : Sent others op h r t t') :
    sendings t' = (h, op) :: sendings t := by
  obtain ⟨t₁, d₁, d', hq, hplay⟩ := hs
  obtain ⟨_, t₂, d₂, hnote, hcall⟩ := plays_bind.1 hplay
  obtain ⟨now, rfl, rfl⟩ := plays_change.1 hnote
  have hquiet := Ensures.plays (ρ := anything others)
    (ensures_quiet (unsent_onNetwork (Calls.keeps_invoke h op).grows) (.refl _)) hcall
  rw [sendings_of_quiet hquiet, ← sendings_of_quiet hq]
  simp [sendings, Change.sending?]

theorem ensures_prepare {others : Desk → Desk → Prop} {t : List (Change Desk)} {d : Desk}
    (op : Operation) : (prepare op).Ensures (anything others)
      (fun _ t' d' => Quiet t t' ∧ d'.session.current = d.session.current) t d := by
  unfold prepare
  refine ensures_when (P := fun t' d' => Quiet t t' ∧ d'.session.current = d.session.current)
    (fun _ => ?_) (fun _ => ⟨.refl t, rfl⟩) fun t' d' hp => ?_
  · refine ensures_change.2 fun now => ⟨trivial, ?_, rfl⟩
    exact (Quiet.refl t).cons (sending?_of_unsent (.of_eq rfl) now)
  · obtain ⟨hq, hd⟩ := hp
    refine ensures_bind.2 (ensures_read.2 fun now => ⟨trivial, ?_⟩)
    refine ensures_bind.2 (ensures_read.2 fun now' => ⟨trivial, ?_⟩)
    have hread (now : Nat) : Change.sending? ⟨true, now, d', d'⟩ = none :=
      sending?_of_unsent (.of_eq rfl) now
    have hq' := (hq.cons (hread now)).cons (hread now')
    split
    · refine ensures_bind.2 (ensures_transact.2 fun now'' => ⟨trivial, ?_⟩)
      dsimp only
      split
      · exact ⟨hq'.cons (hread now''), hd⟩
      · exact ⟨hq'.cons (sending?_of_unsent (.of_eq rfl) now''), hd⟩
    · exact ⟨hq', hd⟩

/-- An operation is sent once over the connection that serves, and a second time only where it may
be and the first time ended in the loss of the connection. Its caller gets the last answer that is
no such loss, else the first. -/
theorem execute_sends (others : Desk → Desk → Prop) (op : Operation) {d : Desk} {h : Handle}
    (hcurrent : d.session.current = some h) :
    (∃ r t d', (execute op).Plays others [] d r t d') ∧
    (∀ r t d', (execute op).Plays others [] d r t d' →
      ∃ r₁ t₁, Sent others op h r₁ [] t₁ ∧
        (sendings t = [(h, op)] ∧ Quiet t₁ t ∧ r = r₁ ∨
          lost r₁ = true ∧ op.isReplayable = true ∧ ∃ h' r₂, sendings t = [(h', op), (h, op)] ∧
            Sent others op h' r₂ t₁ t ∧ r = if lost r₂ then r₁ else r₂)) ∧
    ∀ h' r t d t' d', (invoke h' op).Plays others t d r t' d' → Transmitted h' op t t' := by
  refine ⟨exists_plays others _ [] d, fun r t d' hplay => ?_,
    fun h' r t d t' d' hplay => (ensures_transmitted h' op).plays hplay⟩
  obtain ⟨_, t₁, d₁, hprepare, hplay⟩ := plays_bind.1 hplay
  obtain ⟨hq, hd⟩ := (ensures_prepare op).plays hprepare
  obtain ⟨s, t₂, d₂, hread, hplay⟩ := plays_bind.1 hplay
  obtain ⟨now, rfl, rfl, rfl⟩ := plays_read.1 hread
  rw [hcurrent] at hd
  rw [hd] at hplay
  obtain ⟨r₁, t₃, d₃, hfirst, hplay⟩ := plays_bind.1 hplay
  have hsent : Sent others op h r₁ [] t₃ :=
    ⟨_, _, d₃, hq.cons (sending?_of_unsent (.of_eq rfl) now), hfirst⟩
  have hone := sendings_of_sent hsent
  refine ⟨r₁, t₃, hsent, ?_⟩
  cases r₁ with
  | ok r₁ =>
    obtain ⟨_, t₄, d₄, htouch, hplay⟩ := plays_bind.1 hplay
    obtain ⟨rfl, rfl, rfl⟩ := plays_pure.1 hplay
    have hquiet := (ensures_quiet (unsent_of_coreUnsent steps_touchPing) (.refl t₃)).plays htouch
    exact .inl ⟨(sendings_of_quiet hquiet).trans hone, hquiet, rfl⟩
  | error e =>
    dsimp only at hplay
    split at hplay
    · rename_i he
      obtain ⟨x, t₄, d₄, hlocked, hplay⟩ := plays_bind.1 hplay
      obtain ⟨rfl, rfl, rfl⟩ := plays_pure.1 hplay
      obtain ⟨t₅, d₅, ho, hbody⟩ := plays_locked.1 hlocked
      have hq : Quiet t₃ t₅ := ho.preserves (P := fun t' _ => Quiet t₃ t')
        (fun _ _ _ _ hq _ => hq.cons rfl) (.refl t₃)
      cases (ensures_handleFailover h hq).plays hbody with
      | unsent hx hq' =>
        refine .inl ⟨(sendings_of_quiet hq').trans hone, hq', ?_⟩
        cases x with
        | replayed r => cases hx
        | notReplayed => rfl
        | unrecovered => rfl
      | @sent o h' r₂ hop hrep hsent' =>
        cases hop
        refine .inr ⟨he, hrep, h', r₂, (sendings_of_sent hsent').trans (by rw [hone]; rfl),
          hsent', ?_⟩
        unfold retold
        cases hl : lost r₂ <;> simp [Replay.result]
    · obtain ⟨rfl, rfl, rfl⟩ := plays_pure.1 hplay
      exact .inl ⟨hone, .refl _, rfl⟩

/-- Two connections, where the server behind the one that serves is down. -/
def primaryDown : Desk where
  session := { (default : Session) with
    topology := Topology.ofHosts .replication ((Cluster.replicationHosts 1).map (·.1))
    primary := some 0
    secondary := some 1 }
  network :=
    { cluster := (Cluster.ofHosts (Cluster.replicationHosts 1)).stop
        (Cluster.numbered .primary 0).endpoint
      connections := #[
        { host := Cluster.numbered .primary 0, generation := 0, lastPrimary := true },
        { host := Cluster.numbered .replica 1, generation := 0, lastPrimary := false }] }

/-- A query whose first answer is the loss of its connection is sent again over the other one, whose
answer counts; a kill order goes out once, and its caller learns of the loss. -/
theorem execute_sends_primary_down :
    (∃ r t d', (execute (.query "SELECT 1")).Plays (fun _ _ => True) [] primaryDown r t d' ∧
      sendings t = [(1, .query "SELECT 1"), (0, .query "SELECT 1")] ∧
      ∃ r₁ t₁, Sent (fun _ _ => True) (.query "SELECT 1") 0 r₁ [] t₁ ∧ lost r₁ = true ∧
        Sent (fun _ _ => True) (.query "SELECT 1") 1 r t₁ t ∧ lost r = false) ∧
    ∃ r t d', (execute (.query "KILL 7")).Plays (fun _ _ => True) [] primaryDown r t d' ∧
      sendings t = [(0, .query "KILL 7")] ∧ lost r = true := by
  have hplay (sql : String) := plays_alone (fun _ _ => True) 0 (execute (.query sql)) [] primaryDown
  refine ⟨⟨_, _, _, hplay "SELECT 1", ?_⟩, ⟨_, _, _, hplay "KILL 7", ?_⟩⟩
  · have htwice : sendings ((execute (.query "SELECT 1")).alone 0 [] primaryDown).2.1 =
        [(1, .query "SELECT 1"), (0, .query "SELECT 1")] := by decide +kernel
    have hfound : lost ((execute (.query "SELECT 1")).alone 0 [] primaryDown).1 = false := by
      decide +kernel
    obtain ⟨r₁, t₁, hfirst, ⟨hone, -⟩ | ⟨hlost, -, h', r₂, htwo, hagain, hr⟩⟩ :=
      (execute_sends (fun _ _ => True) (.query "SELECT 1") (d := primaryDown) rfl).2.1 _ _ _
        (hplay "SELECT 1")
    · rw [htwice] at hone
      cases hone
    · rw [htwice] at htwo
      cases htwo
      split at hr
      · rw [hr, hlost] at hfound
        cases hfound
      · rw [← hr] at hagain
        exact ⟨htwice, r₁, t₁, hfirst, hlost, hagain, hfound⟩
  · obtain ⟨r₁, t₁, -, ⟨hone, -⟩ | ⟨-, hrep, -⟩⟩ :=
      (execute_sends (fun _ _ => True) (.query "KILL 7") (d := primaryDown) rfl).2.1 _ _ _
        (hplay "KILL 7")
    · exact ⟨hone, by decide +kernel⟩
    · exact absurd hrep (by decide +kernel)

end Failover.Act

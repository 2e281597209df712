import Failover.Proofs.Office.Opening
import Failover.Scenario

/-!
What becomes of a session when another connection takes over. Its settings go along, save where a
new connection is put into the slot that serves; a transaction on a good connection is left only by
a round of the ping loop that finds the primary unfit, by work in the background for a session with
one writer that was lost, and where a reconnection was asked for.
-/
namespace Failover
open Desk Routine

namespace Act
variable {t : List (Change Desk)} {d d₀ : Desk} {op : Option Operation}

end Act

namespace Office
variable {ask : Request → Prop} {o₀ o o' : Office} {a b : Handle}

/-- The serving connection is replaced by the holder of the lock only, and lawfully. -/
theorem Opened.lawful (ho : o₀.Opened) (hr : Run ask SameCore o₀ o) (hs : Step ask SameCore o o')
    (ha : o.desk.session.current = some a) (hb : o'.desk.session.current = some b) (hab : a ≠ b) :
    ∃ c now, o.busy = some (c, true) ∧ Lawful c.duty o.tenure ⟨true, now, o.desk, o'.desk⟩ := by
  have hsame (hc : o'.desk.session.current = o.desk.session.current) : False := by
    rw [ha, hb] at hc
    exact hab (Option.some.inj hc).symm
  rcases (ho.proper hr).deed (fun _ _ h => h) hs with hd | hd | ⟨c, now, hbusy, hown⟩
  · exact (hsame (by rw [hd])).elim
  · exact (hsame (Session.current_of_core hd.core)).elim
  · exact ⟨c, now, hbusy, hown⟩

/-- Whenever another connection takes over, the settings of the one that served have been carried
over to it under the same lock, unless it was put into the slot that serves. To such a connection
nothing was ever carried over. -/
theorem settings_follow (ho : o₀.Opened) (hr : Run ask SameCore o₀ o) (hs : Step ask SameCore o o')
    (ha : o.desk.session.current = some a) (hb : o'.desk.session.current = some b) (hab : a ≠ b) :
    (¬ Overwrites o.desk o'.desk → Synced a b o.tenure o.desk ∧ o'.desk.network = o.desk.network) ∧
    (Overwrites o.desk o'.desk → ∀ x, (x, b) ∉ o'.desk.session.syncs) := by
  obtain ⟨c, now, -, hlawful⟩ := ho.lawful hr hs ha hb hab
  exact ⟨hlawful.synced a b ha hb hab, hlawful.unsynced a b ha hb hab⟩

/-- A new session over a primary and a replica. -/
def vacant : Desk :=
  let hosts := Cluster.replicationHosts 1
  ⟨Session.unopened (.ofHosts .replication (hosts.map (·.1))) {} .own,
    { cluster := .ofHosts hosts }⟩

def seated : Office := { desk := (Act.connect.alone 0 [] vacant).2.2 }

theorem opened_seated : seated.Opened := by
  have hplay := plays_alone SameCore 0 Act.connect [] vacant
  have hok : (Act.connect.alone 0 [] vacant).1 = .ok () := by decide +kernel
  rw [hok] at hplay
  exact ⟨⟨_, _, _, _, _, hplay⟩, rfl, rfl, nofun⟩

/-- A session that turns to its replica. -/
theorem settings_follow_switch : ∃ o₀ o o' : Office, o₀.Opened ∧
    Run (fun _ => True) SameCore o₀ o ∧ Step (fun _ => True) SameCore o o' ∧
    o.desk.session.current = some 0 ∧ o'.desk.session.current = some 1 ∧
    Synced 0 1 o.tenure o.desk := by
  let o := (seated.serving (.switchReadOnly true)).work 0 10
  have hr : Run (fun _ => True) SameCore seated o :=
    (run_serving _ rfl trivial).trans (run_work 0 10 _)
  have hcurrent : o.desk.session.current = some 0 := by decide +kernel
  have hnext : (o.proceed 0).map (fun o => (o.desk.session.current, o.desk.session.active)) =
      some (some 1, .secondary) := by decide +kernel
  obtain ⟨o', ho', hseen⟩ := Option.map_eq_some_iff.1 hnext
  obtain ⟨hcurrent', hactive'⟩ := Prod.mk.inj hseen
  have hs : Step (fun _ => True) SameCore o o' := step_of_proceed ho'
  refine ⟨seated, o, o', opened_seated, hr, hs, hcurrent, hcurrent', ?_⟩
  refine ((settings_follow opened_seated hr hs hcurrent hcurrent' (by decide)).1 fun hover => ?_).1
  have hactive : o.desk.session.active = .primary := by decide +kernel
  have hstays := hover.2.1
  rw [hactive, hactive'] at hstays
  cases hstays

def begun : Office := (seated.serving (.execute (.query "BEGIN"))).work 0 12

end Office

namespace Scenario

def Stage.after (g : Stage) (steps : List Step) : Stage :=
  steps.foldl (fun g step => (g.take step).2) g

def Stage.desk (g : Stage) : Desk := g.machine.state.desk 0

/-- A read-only session without a replica is served by its primary. The primary's server goes down
and comes back; then a new connection serves to which nothing was carried over, with a setting that
was changed before. -/
theorem settings_stay_behind :
    let before := Stage.after (Setting.stage { hosts := Cluster.replicationHosts 1 })
      [.stop (.index 1), .connect "s" .replication none { autoReconnect := true },
        .ask "s" (.switchReadOnly true), .ask "s" (.execute (.setAutocommit false)),
        .stop (.index 0), .start (.index 0)]
    let after := before.after [.ask "s" (.execute (.query "SELECT 1"))]
    before.desk.session.current = some 0 ∧ after.desk.session.current = some 1 ∧
      after.desk.session.syncs = [] ∧ (before.desk.network.connection 0).autocommit = false ∧
      (after.desk.network.connection 1).autocommit = true := by
  decide +kernel

/-- A session in the middle of a transaction, over hosts whose connections can be disturbed. -/
def Stage.begun (mode : Mode) (replicas : Nat) (o : Options) (readOnly : Bool) : Stage :=
  Stage.after (Setting.stage { hosts := Cluster.replicationHosts replicas, disturbed := true })
    [.connect "s" mode none o, .ask "s" (.switchReadOnly readOnly), .grab "s" "h",
      .ask "s" (.execute (.query "BEGIN"))]

/-- The connection that serves, is good and reports a transaction is left for another by some steps.
-/
def Stage.Leaves (a b : Handle) (steps : List Step) (g : Stage) : Prop :=
  g.desk.session.current = some a ∧ Engaged a g.desk ∧
    (g.after steps).desk.session.current = some b ∧ InTransaction a (g.after steps).desk

end Scenario
end Failover

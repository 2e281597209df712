import Failover.Proofs.Office.Founded
import Failover.Proofs.Office.Handover

/-!
An open session can serve at any time, and knows which of its roles are missing. Whenever its lock
is free it serves where it should, unless a read-only switch was botched.
-/
namespace Failover
open Desk Routine

/-- Connections are handed in, and others close what they like. -/
def Outsiders.everyone : Outsiders := ⟨True, fun _ => True⟩

theorem Botched.changes {ς : Outsiders} {t : List (Change Desk)} (h : Botched ς t) :
    ∃ e ∈ t, e.own = true ∧ e.after.session.outage.readOnlyRequested ≠
      e.before.session.outage.readOnlyRequested := by
  obtain ⟨readOnly, t₁, d₁, e, t₂, d₂, hp, hplay, hbusy, hnone, hsuffix⟩ := h
  obtain ⟨s, t₃, d₃, hread, hplay⟩ := plays_bind.1 hplay
  obtain ⟨now, rfl, rfl, rfl⟩ := plays_read.1 hread
  rw [hp] at hplay
  obtain ⟨s, t₃, d₃, hread, hplay⟩ := plays_bind.1 hplay
  obtain ⟨now', rfl, rfl, rfl⟩ := plays_read.1 hread
  split at hplay
  · cases (plays_pure.1 hplay).1
  · rename_i hother
    obtain ⟨busy, t₃, d₄, hread, hplay⟩ := plays_bind.1 hplay
    obtain ⟨now₃, rfl, rfl, rfl⟩ := plays_read.1 hread
    split at hplay
    · cases (plays_pure.1 hplay).1
      exact (hbusy rfl).elim
    · obtain ⟨_, t₃, d₅, hset, hplay⟩ := plays_bind.1 hplay
      obtain ⟨now₄, rfl, rfl⟩ := plays_change.1 hset
      obtain ⟨es, rfl, -⟩ := hplay.log
      exact ⟨_, hsuffix.mem (List.mem_append_right es List.mem_cons_self), rfl, hother⟩

namespace Office
variable {ς : Outsiders} {ask : Request → Prop} {visitor : Clerk → Prop}
  {t₀ t : List (Change Desk)} {o₀ o : Office}

/-- No step takes from an open session what it needs to serve. -/
theorem Founded.well (ho : o₀.Founded ς t₀) (hvisitor : ∀ c, visitor c → ς.handsIn ∧ HandsIn c)
    (h : Chronicle ask visitor (OutsideLock ς) t₀ o₀ t o) (hopen : o.desk.session.closed = false) :
    o.desk.session.Well := by
  induction h with
  | opened => exact ho.started.well hopen rfl
  | visit _ _ _ ih => exact ih hopen
  | step h hs hr ih =>
    rcases (ho.kept hvisitor h).deed (fun _ _ ha => ha) hs hr with
      ⟨-, hsame⟩ | ⟨own, now, -, hdeed⟩
    · rw [hsame] at hopen ⊢
      exact ih hopen
    · cases own with
      | true =>
        obtain ⟨_, -, hown⟩ := hdeed
        obtain ⟨hbefore, hfair⟩ := hown hopen
        exact hfair.well (ih hbefore)
      | false => exact (ih (hdeed.opened hopen)).of_core hdeed.core

theorem Founded.held {others : Desk → Desk → Prop} {t' : List (Change Desk)} {d : Desk}
    (ho : o₀.Founded .everyone t₀) (h : Chronicle ask HandsIn (OutsideLock .everyone) t₀ o₀ t o)
    (hfree : o.Unlocked) (hothers : ∀ d d', others d d' → OutsideLock .everyone d d')
    (hamid : Amid others t o.desk t' d) : Held .everyone o.desk.session [] {} t' d := by
  have horder : Order .everyone [] {} t o.desk :=
    (ho.kept (fun _ hc => ⟨trivial, hc⟩) h).inOrder hfree
  exact hamid.preserves (fun _ d d' _ h hd => h.pass (hothers d d' hd) (by simp))
    (.of_order horder)

def struck : Office := (opened vacant).amid fun c => c.stop (Cluster.numbered .primary 0).endpoint

def fallen : Office := (struck.serving (.execute (.query "SELECT 1"))).work 0 60

def falling : List (Change Desk) :=
  (struck.serving (.execute (.query "SELECT 1"))).log 0 60
    (⟨false, 0, (opened vacant).desk, struck.desk⟩ :: opening vacant)

theorem chronicle_fallen : Chronicle (fun _ => True) visitor (OutsideLock ς) (opening vacant)
    (opened vacant) falling fallen := by
  have hstruck : Chronicle (fun _ => True) visitor (OutsideLock ς) (opening vacant) (opened vacant)
      (⟨false, 0, (opened vacant).desk, struck.desk⟩ :: opening vacant) struck :=
    Chronicle.opened.amid rfl _
  exact (hstruck.serve rfl trivial).work 0 60

/-- An open session has a connection that serves. With a replica an empty slot is that of a failed
role; with one writer the primary serves and there is no secondary, not even a failed one. -/
theorem well_formed (ho : o₀.Founded .everyone t₀)
    (h : Chronicle ask HandsIn (OutsideLock .everyone) t₀ o₀ t o)
    (hopen : o.desk.session.closed = false) :
    (∃ x, o.desk.session.current = some x) ∧
    (o.desk.session.policy = .replicated →
      (o.desk.session.primary = none → o.desk.session.outage.primaryFailed = true) ∧
      (o.desk.session.secondary = none → o.desk.session.outage.secondaryFailed = true)) ∧
    (o.desk.session.policy = .single →
      o.desk.session.active = .primary ∧ o.desk.session.secondary = none ∧
        o.desk.session.outage.secondaryFailed = false) := by
  have hwell := ho.well (fun _ hc => ⟨trivial, hc⟩) h hopen
  refine ⟨hwell.serves, fun hp => ⟨fun hn => ?_, fun hn => ?_⟩, hwell.single⟩
  · exact hwell.vacant hp .primary hn
  · exact hwell.vacant hp .secondary hn

/-- The primary's server goes down, and the session turns to its replica. -/
theorem well_formed_stop : ∃ t₀ t o₀ o, o₀.Founded .everyone t₀ ∧
    Chronicle (fun _ => True) HandsIn (OutsideLock .everyone) t₀ o₀ t o ∧
    o.desk.session.closed = false ∧ o.desk.session.outage.primaryFailed = true ∧
    ∃ x, o.desk.session.current = some x := by
  have ho : (opened vacant).Founded .everyone (opening vacant) := founded_opened (by decide +kernel)
  have hopen : fallen.desk.session.closed = false := by decide +kernel
  exact ⟨_, _, _, _, ho, chronicle_fallen, hopen, by decide +kernel,
    (well_formed ho chronicle_fallen hopen).1⟩

/-- The replica serves only where read-only was asked for or the primary is failed, and the primary
serves a session that was asked to be read-only only where the secondary is failed. -/
theorem served_where_it_should (ho : o₀.Founded .everyone t₀)
    (h : Chronicle ask HandsIn (OutsideLock .everyone) t₀ o₀ t o) (hfree : o.Unlocked)
    (hopen : o.desk.session.closed = false) (hp : o.desk.session.policy = .replicated)
    (hswitch : ¬Botched .everyone t) :
    (o.desk.session.active = .secondary → o.desk.session.outage.readOnlyRequested = true ∨
      o.desk.session.outage.primaryFailed = true) ∧
    (o.desk.session.active = .primary → o.desk.session.outage.readOnlyRequested = true →
      o.desk.session.outage.secondaryFailed = true) := by
  have horder : Order .everyone [] {} t o.desk :=
    (ho.kept (fun _ hc => ⟨trivial, hc⟩) h).inOrder hfree
  have hrouted := (horder.routed hopen rfl hp).resolve_left hswitch
  exact ⟨hrouted.secondary, hrouted.primary⟩

/-- The primary's server goes down, and the session turns to its replica without being asked to. -/
theorem served_where_it_should_stop : ∃ t₀ t o₀ o, o₀.Founded .everyone t₀ ∧
    Chronicle (fun _ => True) HandsIn (OutsideLock .everyone) t₀ o₀ t o ∧ o.Unlocked ∧
    o.desk.session.closed = false ∧ o.desk.session.policy = .replicated ∧ ¬Botched .everyone t ∧
    o.desk.session.active = .secondary ∧ (o.desk.session.outage.readOnlyRequested = true ∨
      o.desk.session.outage.primaryFailed = true) := by
  have ho : (opened vacant).Founded .everyone (opening vacant) := founded_opened (by decide +kernel)
  have hfree : fallen.Unlocked := unlocked_of_rest (by decide +kernel) (by decide +kernel)
  have hopen : fallen.desk.session.closed = false := by decide +kernel
  have hp : fallen.desk.session.policy = .replicated := by decide +kernel
  have hactive : fallen.desk.session.active = .secondary := by decide +kernel
  have hasked : ∀ e ∈ falling, e.own = true → e.after.session.outage.readOnlyRequested =
      e.before.session.outage.readOnlyRequested := by decide +kernel
  have hswitch : ¬Botched .everyone falling := by
    intro hb
    obtain ⟨e, he, hown, hchanged⟩ := hb.changes
    exact hchanged (hasked e he hown)
  exact ⟨_, _, _, _, ho, chronicle_fallen, hfree, hopen, hp, hswitch, hactive,
    (served_where_it_should ho chronicle_fallen hfree hopen hp hswitch).1 hactive⟩

end Office
end Failover

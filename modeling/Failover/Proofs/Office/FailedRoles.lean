import Failover.Proofs.Office.ServingSlots

/-!
A failed role is looked for, or has been given up with the budget spent. With one writer the budget
stays spent until the writer is found; with a replica it may be renewed by the other role, and then
nobody looks for the one that was given up.
-/
namespace Failover
open Desk Routine

theorem not_givenUp {a : Active} {t : List (Change Desk)} {d : Desk}
    (h : Throughout (fun d => d.session.exhausted = false) t d) : ¬GivenUp a t d := by
  rintro ⟨later, earlier, rfl, hspent, -⟩
  have hlater : Throughout (fun d => d.session.exhausted = false) later d :=
    ⟨h.1, fun e he => h.2 e (List.mem_append_left earlier he)⟩
  rw [hlater.first] at hspent
  cases hspent

theorem Fair.exhausted {s s' : Session} (h : Fair s s') (hw : s.Well) (hp : s.policy = .single)
    (hf : s.failed .primary = true) (hf' : s'.failed .primary = true)
    (hroom : s.outage.attempts.toNat + 1 < UInt32.size) (hs : s.exhausted = true) :
    s'.exhausted = true := by
  have hp' : s'.policy = .single := by rw [Session.policy, h.topology]; exact hp
  simp only [Session.exhausted, hp, hp', Outage.singleExhausted, h.options, decide_eq_true_eq]
    at hs ⊢
  rcases h.counts hw hp hf hf' with he | he
  · rwa [he]
  · rw [UInt32.le_iff_toNat_le] at hs ⊢
    rw [he, UInt32.toNat_add, UInt32.toNat_one, Nat.mod_eq_of_lt hroom]
    exact Nat.le_succ_of_le hs

namespace Office
variable {ς : Outsiders} {ask : Request → Prop} {visitor : Clerk → Prop}
  {t₀ t : List (Change Desk)} {o₀ o : Office}

def Lacking (d : Desk) : Prop :=
  d.session.failed .primary = true ∧ d.session.outage.attempts.toNat + 1 < UInt32.size

/-- With one writer a budget that was spent is still spent if the writer has been failed since. -/
theorem Founded.spent (ho : o₀.Founded ς t₀) (hvisitor : ∀ c, visitor c → ς.handsIn ∧ HandsIn c)
    (h : Chronicle ask visitor (OutsideLock ς) t₀ o₀ t o) (hopen : o.desk.session.closed = false)
    (hp : o.desk.session.policy = .single) (later earlier : List (Change Desk))
    (ht : t = later ++ earlier) (hl : Throughout Lacking later o.desk)
    (hspent : (first later o.desk).session.exhausted = true) : o.desk.session.exhausted = true := by
  induction h generalizing later with
  | opened =>
    -- A session opens with its writer, so none has been failed since before.
    have hgood := ho.started.good hp
    rw [hl.1.1] at hgood
    cases hgood
  | visit _ _ _ ih => exact ih hopen hp later ht hl hspent
  | @step t t' o o' h hs hr ih =>
    rcases (ho.kept hvisitor h).deed (fun _ _ ha => ha) hs hr with
      ⟨rfl, hsame⟩ | ⟨own, now, rfl, hdeed⟩
    · rw [hsame] at hopen hp hl hspent ⊢
      exact ih hopen hp later ht hl hspent
    · cases later with
      | nil => exact hspent
      | cons e later =>
        obtain ⟨rfl, rfl⟩ := List.cons.inj ht
        obtain ⟨hnow, hl⟩ := throughout_cons.1 hl
        cases own with
        | true =>
          obtain ⟨_, -, hown⟩ := hdeed
          obtain ⟨hbefore, hfair⟩ := hown hopen
          have hp' : o.desk.session.policy = .single := by
            rw [Session.policy, ← hfair.topology]
            exact hp
          have hw := ho.well hvisitor h hbefore
          exact hfair.exhausted hw hp' hl.1.1 hnow.1 hl.1.2
            (ih hbefore hp' later rfl hl hspent)
        | false =>
          rw [Session.exhausted_of_core hdeed.core]
          rw [Session.policy_of_core hdeed.core] at hp
          exact ih (hdeed.opened hopen) hp later rfl hl hspent

/-- A failed role is looked for whenever the lock is free and the budget is not spent, exactly if no
role that was given up has its budget renewed; and with one writer none ever has. -/
theorem sought_unless_given_up (ho : o₀.Founded .everyone t₀)
    (h : Chronicle ask HandsIn (OutsideLock .everyone) t₀ o₀ t o) (hfree : o.Unlocked)
    (hopen : o.desk.session.closed = false) (huse : Throughout InUse t o.desk) :
    (∀ a, (o.desk.session.failed a = true → o.desk.session.exhausted = false →
        o.desk.session.retryLoop.armed = true) ↔
      (GivenUp a t o.desk → o.desk.session.exhausted = true)) ∧
    (o.desk.session.policy = .single →
      Throughout (fun d => d.session.outage.attempts.toNat + 1 < UInt32.size) t o.desk →
      ∀ a, o.desk.session.failed a = true → o.desk.session.exhausted = false →
        o.desk.session.retryLoop.armed = true) := by
  have hvisitor (c : Clerk) (hc : HandsIn c) : Outsiders.everyone.handsIn ∧ HandsIn c :=
    ⟨trivial, hc⟩
  have horder : Order .everyone [] {} t o.desk := (ho.kept hvisitor h).inOrder hfree
  have hsought (a : Active) (hf : o.desk.session.failed a = true)
      (hgiven : GivenUp a t o.desk → o.desk.session.exhausted = true)
      (hleft : o.desk.session.exhausted = false) : o.desk.session.retryLoop.armed = true := by
    refine (horder.watched hopen huse a rfl hf).resolve_right fun hg => ?_
    rw [hgiven hg] at hleft
    cases hleft
  refine ⟨fun a => ⟨fun hclaim hg => ?_, fun hgiven hf => hsought a hf hgiven⟩,
    fun hp hroom a hf => hsought a hf fun hg => ?_⟩
  · obtain ⟨later, earlier, -, -, hf, hidle⟩ := hg
    by_contra hleft
    have harmed := hclaim hf.1 (Bool.eq_false_iff.2 hleft)
    rw [hf.2] at harmed
    cases harmed
  · cases a with
    | secondary =>
      -- With one writer there is no other role to fail.
      have hgood := ((ho.well hvisitor h hopen).single hp).2.2
      rw [show o.desk.session.outage.secondaryFailed = true from hf] at hgood
      cases hgood
    | primary =>
      obtain ⟨later, earlier, rfl, hspent, hl⟩ := hg
      refine ho.spent hvisitor h hopen hp later earlier rfl ?_ hspent
      exact ⟨⟨hf, hroom.1⟩, fun e he => ⟨(hl.2 e he).1, hroom.2 e (List.mem_append_left _ he)⟩⟩

def replicaDown : Desk :=
  Desk.unopened {} (.stop (Cluster.numbered .replica 1).endpoint
    (.ofHosts (Cluster.replicationHosts 1)))

def replicaAwaited : Office :=
  ((opened replicaDown).serving (.execute (.query "SELECT 1"))).work 0 20

def awaiting : List (Change Desk) :=
  ((opened replicaDown).serving (.execute (.query "SELECT 1"))).log 0 20 (opening replicaDown)

/-- A session that opens without its replica looks for it while it serves. -/
theorem sought_unless_given_up_absent : ∃ t₀ t o₀ o, o₀.Founded .everyone t₀ ∧
    Chronicle (fun _ => True) HandsIn (OutsideLock .everyone) t₀ o₀ t o ∧ o.Unlocked ∧
    o.desk.session.closed = false ∧ Throughout InUse t o.desk ∧
    o.desk.session.failed .secondary = true ∧ o.desk.session.exhausted = false ∧
    o.desk.session.retryLoop.armed = true := by
  have ho : (opened replicaDown).Founded .everyone (opening replicaDown) :=
    founded_opened (by decide +kernel)
  have h : Chronicle (fun _ => True) HandsIn (OutsideLock .everyone) (opening replicaDown)
      (opened replicaDown) awaiting replicaAwaited :=
    (Chronicle.opened.serve rfl trivial).work 0 20
  have hfree : replicaAwaited.Unlocked := unlocked_of_rest (by decide +kernel) (by decide +kernel)
  have hopen : replicaAwaited.desk.session.closed = false := by decide +kernel
  have huse : Throughout InUse awaiting replicaAwaited.desk := by
    unfold Throughout InUse
    decide +kernel
  have hleft : Throughout (fun d => d.session.exhausted = false) awaiting replicaAwaited.desk := by
    unfold Throughout
    decide +kernel
  have hfailed : replicaAwaited.desk.session.failed .secondary = true := by decide +kernel
  have harmed := ((sought_unless_given_up ho h hfree hopen huse).1 .secondary).2
    (fun hg => (not_givenUp hleft hg).elim) hfailed hleft.1
  exact ⟨_, _, _, _, ho, h, hfree, hopen, huse, hfailed, hleft.1, harmed⟩

end Office

namespace Scenario

/-- The retry loop has given the replica up with the budget spent. Then the primary fails and is
found at once, which renews the budget; but nobody looks for the replica any more. -/
theorem secondary_not_sought :
    let opened := Stage.after (Setting.stage { hosts := Cluster.replicationHosts 1 })
      [.stop (.index 1), .connect "s" .replication none
        { autoReconnect := true, retriesAllDown := 2, secondsBeforeRetryMaster := 0 }]
    let later := opened.after [.advance 1000, .stop (.index 0), .start (.index 0)]
    let after := later.after [.ask "s" (.execute (.query "SELECT 1"))]
    (opened.desk.session.failed .secondary = true ∧ opened.desk.session.retryLoop.armed = true) ∧
    (later.desk.session.exhausted = true ∧ later.desk.session.retryLoop.armed = false) ∧
    (after.desk.session.closed = false ∧ after.machine.held = [] ∧
      after.desk.session.failed .secondary = true ∧ after.desk.session.exhausted = false ∧
      after.desk.session.retryLoop.armed = false) := by
  decide +kernel

end Scenario
end Failover

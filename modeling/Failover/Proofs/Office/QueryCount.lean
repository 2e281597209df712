import Failover.Proofs.Session.BegunQueries
import Failover.Proofs.Session.BreakingQuery
import Failover.Proofs.Office.ServingSlots
import Failover.Proofs.Outage.Summary
import Failover.Proofs.Outage.Memory

/-!
Every query counts once. While the primary is failed a query is counted when it is begun, and at no
other moment; the one on which the primary failed is counted right after that.
-/
namespace Failover
open Desk Routine

namespace Office
variable {ask : Request → Prop} {visitor : Clerk → Prop} {outside : Desk → Desk → Prop}
  {t t' : List (Change Desk)} {o₀ o o' : Office} {n : Nat} {begun ops : List Operation}
  {broken : Option Operation}

def Down (o : Office) : Prop := o.desk.session.outage.primaryFailed = true

instance (o : Office) : Decidable o.Down :=
  inferInstanceAs (Decidable (o.desk.session.outage.primaryFailed = true))

/-- The operations that the next step begins, of which there is one at most. -/
inductive Begins (o : Office) : List Operation → Prop
  | one (op : Operation) : o.busy = some (.fresh (.request (.execute op)), false) → Begins o [op]
  | none : (∀ op, o.busy ≠ some (.fresh (.request (.execute op)), false)) → Begins o []

def Breaks (t : List (Change Desk)) (o : Office) (op : Operation) : Prop :=
  ∃ c h, o.busy = some (c, true) ∧ o.desk.session.active = .primary ∧
    o.desk.session.current = some h ∧ c.duty.Reports t h (some op)

/-- While nobody at work holds the lock a query is counted when it is begun, and at no other moment.
-/
theorem Manned.queries (hm : o.Manned Clerk.Announced) (hs : Step ask SameSession o o')
    (hfree : ∀ c, o.busy ≠ some (c, true)) (hdown : o.Down) (hb : o.Begins begun) :
    o'.desk.session.outage.queries =
      o.desk.session.outage.queries + UInt32.ofNat (begun.countP (·.isQuery)) := by
  have hsilent (h : SameOutage o.desk o'.desk) : o'.desk.session.outage.queries =
      o.desk.session.outage.queries + UInt32.ofNat 0 := by
    rw [show o'.desk.session.outage = _ from h]
    exact (UInt32.add_zero _).symm
  cases hb with
  | none hnone =>
    refine hsilent ?_
    rcases desk_of_step hs with
      ⟨hsame, -⟩ | ⟨-, hout⟩ | ⟨c, holds, step, next, now, hbusy, hrest, hdesk⟩
    · rw [SameOutage, hsame]
    · rw [SameOutage, show o'.desk.session = _ from hout]
    · cases holds with
      | true => exact (hfree c hbusy).elim
      | false =>
        rcases hm.busy c false hbusy with h | ⟨-, op, rfl⟩
        · rw [hrest] at h
          rw [hdesk]
          exact (h now o.desk).1 rfl
        · exact (hnone op hbusy).elim
  | one op hbusy =>
    have h := Act.announces_request op
    rw [List.countP_singleton]
    rcases desk_of_step hs with
      ⟨hsame, hno⟩ | ⟨hnone, -⟩ | ⟨c, holds, step, next, now, hbusy', hrest, hdesk⟩
    · unfold Act.Announces at h
      split at h
      · obtain ⟨next, -, hrest⟩ := h
        exact (hno _ _ _ _ hbusy hrest).elim
      · rename_i hquery
        rw [if_neg hquery]
        exact hsilent (by rw [SameOutage, hsame])
    · cases hbusy.symm.trans hnone
    · cases hbusy.symm.trans hbusy'
      rw [hrest] at h
      rw [hdesk, h.queries hdown now]
      split <;> rfl

theorem Kept.free (hk : o.Kept reckoning t) (hfree : ∀ c, o.busy ≠ some (c, true))
    (hs : Step ask SameSession o o') (hr : Records o o' t t') :
    Calm t' ∧ o'.desk.session.core = o.desk.session.core := by
  have hcalm := hk.calm hfree
  have hout (d d' : Desk) (h : SameSession d d') : d'.session.core = d.session.core := by
    rw [show d'.session = _ from h]
  rcases hk.deed hout hs hr with ⟨rfl, hsame⟩ | ⟨own, now, rfl, hdeed⟩
  · exact ⟨hcalm, by rw [hsame]⟩
  · cases own with
    | true =>
      obtain ⟨c, hbusy, -⟩ := hdeed
      exact (hfree c hbusy).elim
    | false => exact ⟨hcalm.cons (Change.not_strikes_of_core hdeed), hdeed⟩

def Owed (t : List (Change Desk)) (o : Office) : Prop :=
  ∃ c, o.busy = some (c, true) ∧ c.duty.Owing t

theorem not_owed_of_calm (h : Calm t) : ¬o.Owed t := by
  rintro ⟨c, -, ho⟩
  exact h.not_owing ho

theorem Kept.exists_holder {duty : Duty} (hk : o.Kept reckoning t) (ho : duty.Owing t) :
    ∃ c, o.busy = some (c, true) := by
  by_contra hfree
  exact (hk.calm fun c hc => hfree ⟨c, hc⟩).not_owing ho

theorem owed_iff {c : Clerk} (hbusy : o.busy = some (c, true)) : o.Owed t ↔ c.duty.Owing t := by
  simp [Owed, hbusy]

theorem Kept.owed_iff_of_duty {duty : Duty} (hk : o.Kept reckoning t)
    (hduty : ∀ c, o.busy = some (c, true) → c.duty = duty) : o.Owed t ↔ duty.Owing t := by
  constructor
  · rintro ⟨c, hbusy, ho⟩
    exact hduty c hbusy ▸ ho
  · intro ho
    obtain ⟨c, hbusy⟩ := hk.exists_holder ho
    exact ⟨c, hbusy, (hduty c hbusy).symm ▸ ho⟩

/-- So many queries have been counted, or are counted once what is owed has been. -/
structure Reckoned (n : Nat) (t : List (Change Desk)) (o : Office) : Prop where
  owed : o.Owed t → o.desk.session.outage.queries + 1 = UInt32.ofNat n
  counted : ¬o.Owed t → o.desk.session.outage.queries = UInt32.ofNat n

theorem Reckoned.of_calm (hcalm : Calm t)
    (h : o.desk.session.outage.queries = UInt32.ofNat n) : Reckoned n t o :=
  ⟨fun ho => (not_owed_of_calm hcalm ho).elim, fun _ => h⟩

/-- As long as the primary is failed each step counts what it begins. -/
theorem Reckoned.step (h : Reckoned n t o) (hk : o.Kept reckoning t) (hk' : o'.Kept reckoning t')
    (hm : o.Manned Clerk.Announced) (hs : Step ask SameSession o o') (hr : Records o o' t t')
    (hdown : o.Down) (hdown' : o'.Down) (hb : o.Begins begun) :
    Reckoned (n + begun.countP (·.isQuery)) t' o' := by
  by_cases hfree : ∀ c, o.busy ≠ some (c, true)
  · refine .of_calm (hk.free hfree hs hr).1 ?_
    rw [hm.queries hs hfree hdown hb, h.counted (not_owed_of_calm (hk.calm hfree))]
    exact (UInt32.ofNat_add n _).symm
  · -- Whoever holds the lock is alone at work, and has begun long ago.
    obtain ⟨c, hbusy⟩ : ∃ c, o.busy = some (c, true) := by simpa using hfree
    have hnone : begun = [] := by
      cases hb with
      | one op hb => cases hbusy.symm.trans hb
      | none => rfl
    subst hnone
    obtain ⟨hduty, ⟨rfl, hsame⟩ | ⟨now, rfl, hown⟩⟩ := hk.holder hbusy hs hr
    · have howed : o'.Owed t' ↔ o.Owed t' := (hk'.owed_iff_of_duty hduty).trans (owed_iff hbusy).symm
      refine ⟨fun ho => ?_, fun ho => ?_⟩ <;> rw [hsame]
      · exact h.owed (howed.1 ho)
      · exact h.counted fun hx => ho (howed.2 hx)
    · -- The primary was failed before, and so this step leaves nothing to be counted.
      have hnot : ¬c.duty.Owing (⟨true, now, o.desk, o'.desk⟩ :: t) := by
        rintro ⟨⟨hgood, -⟩, -⟩
        cases hgood.symm.trans hdown
      refine ⟨fun ho => (hnot ((hk'.owed_iff_of_duty hduty).1 ho)).elim, fun _ => ?_⟩
      by_cases ho : c.duty.Owing t
      · rw [hown.owing ho, Outage.queries_countQuery hdown]
        exact h.owed ((owed_iff hbusy).2 ho)
      · rw [hown.clear ho hdown']
        exact h.counted fun hx => ho ((owed_iff hbusy).1 hx)

/-- A run up to a moment at which the primary is failed, the operation on which it failed, if it was
one, and all operations that have been begun since, the latest first. -/
inductive Downtime (ask : Request → Prop) (visitor : Clerk → Prop) (outside : Desk → Desk → Prop)
    (o₀ : Office) : Option Operation → List Operation → List (Change Desk) → Office → Prop
  | opened : o₀.Down → Downtime ask visitor outside o₀ none [] [] o₀
  | fell {broken : Option Operation} {t t' : List (Change Desk)} {o o' : Office} :
      Chronicle ask visitor outside [] o₀ t o → Step ask outside o o' → Records o o' t t' →
      ¬o.Down → o'.Down → (∀ op, op ∈ broken ↔ o.Breaks t op) →
      Downtime ask visitor outside o₀ broken [] t' o'
  | step {broken : Option Operation} {begun ops : List Operation} {t t' : List (Change Desk)}
      {o o' : Office} : Downtime ask visitor outside o₀ broken ops t o → Step ask outside o o' →
      Records o o' t t' → o'.Down → o.Begins begun →
      Downtime ask visitor outside o₀ broken (begun ++ ops) t' o'
  | visit {broken : Option Operation} {ops : List Operation} {t : List (Change Desk)} {o : Office}
      {c : Clerk} : Downtime ask visitor outside o₀ broken ops t o → o.busy = none → visitor c →
      Downtime ask visitor outside o₀ broken ops t { o with idle := c :: o.idle }

theorem Downtime.down (h : Downtime ask visitor outside o₀ broken ops t o) : o.Down := by
  induction h with
  | opened hd => exact hd
  | fell _ _ _ _ hd _ => exact hd
  | step _ _ _ hd _ _ => exact hd
  | visit _ _ _ ih => exact ih

theorem Downtime.chronicle (h : Downtime ask visitor outside o₀ broken ops t o) :
    Chronicle ask visitor outside [] o₀ t o := by
  induction h with
  | opened => exact .opened
  | fell h hs hr _ _ _ => exact h.step hs hr
  | step _ hs hr _ _ ih => exact ih.step hs hr
  | visit _ hbusy hc ih => exact ih.visit hbusy hc

theorem exists_begins (o : Office) : ∃ begun, o.Begins begun := by
  by_cases h : ∃ op, o.busy = some (.fresh (.request (.execute op)), false)
  · obtain ⟨op, h⟩ := h
    exact ⟨[op], .one op h⟩
  · exact ⟨[], .none fun op hop => h ⟨op, hop⟩⟩

theorem Breaks.mem_iff {op : Operation} (h : o.Breaks t op) (x : Operation) :
    x ∈ some op ↔ o.Breaks t x := by
  rw [Option.mem_some_iff]
  constructor
  · rintro rfl
    exact h
  · rintro ⟨c', y', hbusy', -, -, hr'⟩
    obtain ⟨c, y, hbusy, -, -, hr⟩ := h
    cases hbusy.symm.trans hbusy'
    exact Option.some.inj (hr'.operation hr)

/-- Every moment at which the primary is failed belongs to a time for which it has been down. -/
theorem Chronicle.downtime (h : Chronicle ask visitor outside [] o₀ t o) (hdown : o.Down) :
    ∃ broken ops, Downtime ask visitor outside o₀ broken ops t o := by
  induction h with
  | opened => exact ⟨none, [], .opened hdown⟩
  | visit _ hbusy hc ih =>
    obtain ⟨broken, ops, h⟩ := ih hdown
    exact ⟨broken, ops, h.visit hbusy hc⟩
  | @step t t' o o' h hs hr ih =>
    by_cases hd : o.Down
    · obtain ⟨broken, ops, h⟩ := ih hd
      obtain ⟨begun, hb⟩ := exists_begins o
      exact ⟨broken, begun ++ ops, h.step hs hr hdown hb⟩
    · by_cases hbreak : ∃ op, o.Breaks t op
      · obtain ⟨op, hop⟩ := hbreak
        exact ⟨some op, [], .fell h hs hr hd hdown hop.mem_iff⟩
      · exact ⟨none, [], .fell h hs hr hd hdown fun x => ⟨nofun, fun hx => (hbreak ⟨x, hx⟩).elim⟩⟩

/-- The step on which the primary fails counts nothing, and leaves the query that broke on it, if it
was one, to be counted. -/
theorem Reckoned.fell (hk : o.Kept reckoning t) (hk' : o'.Kept reckoning t')
    (hs : Step ask SameSession o o') (hr : Records o o' t t') (hgood : ¬o.Down) (hdown : o'.Down)
    (hzero : o.desk.session.outage.queries = 0) (hbroken : ∀ op, op ∈ broken ↔ o.Breaks t op) :
    Reckoned (if broken.any (·.isQuery) then 1 else 0) t' o' := by
  have hgood : o.desk.session.outage.primaryFailed = false := Bool.eq_false_iff.2 hgood
  have hturn (hc : o'.desk.session.core = o.desk.session.core) : False := by
    rw [Down, Session.primaryFailed_of_core hc, hgood] at hdown
    cases hdown
  obtain ⟨c, hbusy⟩ : ∃ c, o.busy = some (c, true) := by
    by_contra hfree
    exact hturn (hk.free (fun c hc => hfree ⟨c, hc⟩) hs hr).2
  obtain ⟨hduty, ⟨-, hsame⟩ | ⟨now, rfl, hown⟩⟩ := hk.holder hbusy hs hr
  · exact (hturn (by rw [hsame])).elim
  -- Who owes a query counts it now, and that fails no primary.
  have hnot : ¬c.duty.Owing t := by
    intro ho
    have hcount := hown.owing ho
    rw [Outage.countQuery_of_good hgood] at hcount
    rw [Down, hcount, hgood] at hdown
    cases hdown
  have hqueries : o'.desk.session.outage.queries = 0 := (hown.clear hnot hdown).trans hzero
  have howed : o'.Owed (⟨true, now, o.desk, o'.desk⟩ :: t) ↔ broken.any (·.isQuery) = true := by
    rw [hk'.owed_iff_of_duty hduty, Option.any_eq_true]
    constructor
    · rintro ⟨-, ha, h, op, hcurrent, hreports, hquery⟩
      exact ⟨op, (hbroken op).2 ⟨c, h, hbusy, ha, hcurrent, hreports⟩, hquery⟩
    · rintro ⟨op, hop, hquery⟩
      obtain ⟨x, h, hx, ha, hcurrent, hreports⟩ := (hbroken op).1 hop
      cases hbusy.symm.trans hx
      exact ⟨⟨hgood, hdown⟩, ha, h, op, hcurrent, hreports, hquery⟩
  refine ⟨fun ho => ?_, fun ho => ?_⟩
  · rw [hqueries, if_pos (howed.1 ho)]
    rfl
  · rw [hqueries, if_neg fun hb => ho (howed.2 hb)]
    rfl

theorem Begun.reckoning (ho : o₀.Begun SameSession) (h : Chronicle ask HandsIn SameSession [] o₀ t o) :
    o.Kept reckoning t := by
  refine h.kept (fun d d' hout => ?_) (fun t d d' now hd ha => ?_)
    (fun r _ => admits_reckoning.request r) admits_reckoning.errand
    (fun c hc => waits_reckoning hc) (.of_rest admits_reckoning ho.busy ho.keeper ho.idle ?_)
  · exact congrArg Session.core hout
  · exact Calm.cons hd (Change.not_strikes_of_core ha)
  · exact ⟨trivial, trivial⟩

theorem Begun.announced (ho : o₀.Begun SameSession) (h : Chronicle ask HandsIn SameSession [] o₀ t o) :
    o.Manned Clerk.Announced := by
  induction h with
  | opened =>
    refine ⟨fun c hc => ?_, fun c holds hc => ?_, fun c hc => ?_⟩
    · obtain ⟨e, rfl⟩ := ho.idle c hc
      exact .inl (Act.beside_errand e)
    · cases ho.busy.symm.trans hc
    · cases ho.keeper.symm.trans hc
  | step _ hs _ ih =>
    exact ih.step (fun _ _ _ _ h hgo => h.goes hgo) (fun r _ => r.announced)
      (fun e => .inl (Act.beside_errand e)) hs
  | visit _ _ hc ih =>
    obtain ⟨e, role, x, rfl⟩ := hc
    refine ⟨List.forall_mem_cons.2 ⟨.inl ?_, ih.idle⟩, ih.busy, ih.keeper⟩
    exact (Act.beside_moves (Act.moves_found role x)).bind fun _ => trivial

theorem Begun.queries (ho : o₀.Begun SameSession) : o₀.desk.session.outage.queries = 0 := by
  obtain ⟨_, _, _, _, _, hplay⟩ := ho.connected
  refine Act.holds_connect (F := fun d => d.session.outage.queries = 0) (fun d d' h he => ?_)
    (fun d d' h hm => ?_) ?_ hplay rfl
  · rwa [show d'.session = d.session from he]
  · cases hm with
    | outage e he =>
      change (d.session.outage.apply e).queries = 0
      rw [Outage.queries_apply, if_neg (fun hq : _ ∧ _ => he hq.1), h]
      exact ite_self 0
    | primary x a => rfl
    | _ => exact h
  · exact Act.sameOutage_touchPing.mono fun d d' hs h => by rwa [show d'.session.outage = _ from hs]

/-- While the primary is down the steps count what they begin. -/
theorem Downtime.reckoned (ho : o₀.Begun SameSession)
    (h : Downtime ask HandsIn SameSession o₀ broken ops t o) :
    Reckoned (ops.countP (·.isQuery) + if broken.any (·.isQuery) then 1 else 0) t o := by
  induction h with
  | opened _ => exact .of_calm ⟨trivial, trivial⟩ ho.queries
  | fell h hs hr hgood hdown hbroken =>
    rw [List.countP_nil, Nat.zero_add]
    exact .fell (ho.reckoning h) (ho.reckoning (h.step hs hr)) hs hr hgood hdown
      (ho.tallied h (Bool.eq_false_iff.2 hgood)) hbroken
  | step h hs hr hdown hb ih =>
    have hn := ih.step (ho.reckoning h.chronicle) (ho.reckoning (h.chronicle.step hs hr))
      (ho.announced h.chronicle) hs hr h.down hdown hb
    rw [List.countP_append, Nat.add_assoc, Nat.add_comm]
    exact hn
  | visit _ _ _ ih => exact ⟨ih.owed, ih.counted⟩

/-- While the primary is failed the session has counted, up to the end of all numbers, each query
that has been begun since it failed, once, and the one on which it failed, if it was a query that
broke on the primary that served. -/
theorem each_query_counts_once (ho : o₀.Begun SameSession)
    (h : Downtime ask HandsIn SameSession o₀ broken ops t o) (hfree : ∀ c, o.busy ≠ some (c, true)) :
    o.desk.session.outage.queries.toNat =
      (ops.countP (·.isQuery) + if broken.any (·.isQuery) then 1 else 0) % UInt32.size := by
  have hcalm := (ho.reckoning h.chronicle).calm hfree
  rw [(h.reckoned ho).counted (not_owed_of_calm hcalm)]
  exact UInt32.toNat_ofNat

/-- The next step begins no operation. -/
def goesOn (o : Office) : Bool :=
  match o.busy with
  | some (⟨.request (.execute op), .act step _⟩, false) =>
    op.isQuery && decide ((step 0 o.desk).session.outage.queries = o.desk.session.outage.queries)
  | some (⟨.request (.execute op), _⟩, false) => op.isQuery
  | _ => true

/-- No step begins an operation, and the primary stays failed. -/
def steadfast (now : Nat) : Nat → Office → Bool
  | 0, _ => true
  | k + 1, o =>
    match o.proceed now with
    | none => true
    | some o' => o.goesOn && o'.desk.session.outage.primaryFailed && o'.steadfast now k

theorem begins_of_goesOn (hdown : o.Down) (h : o.goesOn = true) : o.Begins [] := by
  refine .none fun op hbusy => ?_
  have hannounces := Act.announces_request op
  obtain ⟨rest, hrest⟩ : ∃ rest, (Duty.request (.execute op)).work = rest := ⟨_, rfl⟩
  rw [Clerk.fresh, hrest] at hbusy hannounces
  unfold goesOn at h
  rw [hbusy] at h
  cases rest with
  | act step next =>
    obtain ⟨hquery, hsame⟩ := Bool.and_eq_true_iff.1 h
    have hcount := hannounces.queries hdown 0
    rw [of_decide_eq_true hsame, if_pos hquery] at hcount
    exact absurd (UInt32.left_eq_add.1 hcount) (by decide)
  | _ =>
    unfold Act.Announces at hannounces
    rw [if_pos (show op.isQuery = true from h)] at hannounces
    obtain ⟨next, -, he⟩ := hannounces
    cases he

theorem Downtime.work {now k : Nat} (h : Downtime ask visitor outside o₀ broken ops t o)
    (hsteadfast : o.steadfast now k = true) :
    Downtime ask visitor outside o₀ broken ops (o.log now k t) (o.work now k) := by
  induction k generalizing o t with
  | zero => exact h
  | succ k ih =>
    simp only [steadfast, log, Office.work] at hsteadfast ⊢
    cases ho : o.proceed now with
    | none => exact h
    | some o' =>
      rw [ho] at hsteadfast
      obtain ⟨hstep, hrest⟩ := Bool.and_eq_true_iff.1 hsteadfast
      obtain ⟨hgoes, hdown⟩ := Bool.and_eq_true_iff.1 hstep
      exact ih (h.step (step_of_proceed ho) (records_proceed ho) hdown
        (begins_of_goesOn h.down hgoes)) hrest

theorem Downtime.serve {op : Operation} {now : Nat}
    (h : Downtime ask visitor outside o₀ broken ops t o) (hbusy : o.busy = none)
    (hr : ask (.execute op)) (hproceed : ((o.serving (.execute op)).proceed now).isSome = true)
    (hdown : ((o.serving (.execute op)).work now 1).Down) :
    Downtime ask visitor outside o₀ broken (op :: ops) ((o.serving (.execute op)).log now 1 t)
      ((o.serving (.execute op)).work now 1) := by
  have hnobody (idle : List Clerk) : Begins { o with idle } [] := by
    refine .none fun op hop => ?_
    rw [show o.busy = _ from hop] at hbusy
    cases hbusy
  have hcalled := h.step (.call (.execute op) hbusy hr) (.inl ⟨rfl, .inl rfl⟩) h.down
    (hnobody o.idle)
  have hserved := hcalled.step (@Step.resume ask outside
    { o with idle := .fresh (.request (.execute op)) :: o.idle } _ [] o.idle hbusy rfl)
    (.inl ⟨rfl, .inl rfl⟩) h.down (hnobody _)
  obtain ⟨o', ho⟩ := Option.isSome_iff_exists.1 hproceed
  simp only [log, Office.work, ho] at hdown ⊢
  exact hserved.step (step_of_proceed ho) (records_proceed ho) hdown (.one op rfl)

/-- Whoever holds the lock has sent the operation on the primary that serves. -/
def sending (t : List (Change Desk)) (h : Handle) (op : Operation) (o : Office) : Bool :=
  match o.busy with
  | some (⟨.request (.execute x), _⟩, true) =>
    decide (x = op) && decide (o.desk.session.active = .primary) &&
      decide (o.desk.session.current = some h) && t.any fun e =>
        decide (e.after.session.journal = .invoke h op :: e.before.session.journal)
  | _ => false

theorem breaks_of_sending {h : Handle} {op : Operation} (hs : o.sending t h op = true) :
    o.Breaks t op := by
  unfold sending at hs
  split at hs
  · rename_i x rest hbusy
    simp only [Bool.and_eq_true, decide_eq_true_eq, List.any_eq_true] at hs
    obtain ⟨⟨⟨rfl, hactive⟩, hcurrent⟩, e, he, hsent⟩ := hs
    exact ⟨_, h, hbusy, hactive, hcurrent, .sent he hsent⟩
  · cases hs

def breaking : Office := (struck.serving (.execute (.query "SELECT 1"))).work 0 12

def breakingLog : List (Change Desk) :=
  (struck.serving (.execute (.query "SELECT 1"))).log 0 12
    [⟨false, 0, (opened vacant).desk, struck.desk⟩]

def turned : Office := (breaking.work 0 1).work 0 40

def followed : Office := ((turned.serving (.execute (.query "SELECT 2"))).work 0 1).work 0 40

def varied : Office := (followed.serving (.execute (.setMaxRows 10))).work 0 1

/-- The primary goes down under a query, and two operations are begun after that. -/
theorem each_query_counts_once_varied : ∃ o₀ t o, o₀.Begun SameSession ∧
    Downtime (fun _ => True) HandsIn SameSession o₀ (some (.query "SELECT 1"))
      [.setMaxRows 10, .query "SELECT 2"] t o ∧
    (∀ c, o.busy ≠ some (c, true)) ∧ o.desk.session.outage.queries.toNat = 2 := by
  have ho : (opened vacant).Begun SameSession := begun_opened (by decide +kernel)
  have hstruck : Chronicle (fun _ => True) HandsIn SameSession [] (opened vacant)
      [⟨false, 0, (opened vacant).desk, struck.desk⟩] struck :=
    Chronicle.opened.step (.befall 0 _ rfl rfl) (.inr ⟨_, rfl, rfl⟩)
  have hbreaking : Chronicle (fun _ => True) HandsIn SameSession [] (opened vacant) breakingLog
      breaking := (hstruck.serve rfl trivial).work 0 12
  have hbreaks : breaking.Breaks breakingLog (.query "SELECT 1") :=
    breaks_of_sending (h := 0) (by decide +kernel)
  have hnext : breaking.proceed 0 = some (breaking.work 0 1) := rfl
  have hfell : Downtime (fun _ => True) HandsIn SameSession (opened vacant)
      (some (.query "SELECT 1")) [] _ (breaking.work 0 1) :=
    .fell hbreaking (step_of_proceed hnext) (records_proceed hnext) (by decide +kernel)
      (by decide +kernel) hbreaks.mem_iff
  have hturned : Downtime (fun _ => True) HandsIn SameSession (opened vacant)
      (some (.query "SELECT 1")) [] _ turned := hfell.work (by decide +kernel)
  have hrest (o : Office) (h : o.busy.isNone = true) : o.busy = none :=
    Option.isNone_iff_eq_none.1 h
  have hfollowed : Downtime (fun _ => True) HandsIn SameSession (opened vacant)
      (some (.query "SELECT 1")) [.query "SELECT 2"] _ followed :=
    (hturned.serve (hrest turned (by decide +kernel)) trivial (by decide +kernel)
      (by decide +kernel)).work (by decide +kernel)
  have hvaried : Downtime (fun _ => True) HandsIn SameSession (opened vacant)
      (some (.query "SELECT 1")) [.setMaxRows 10, .query "SELECT 2"] _ varied :=
    hfollowed.serve (hrest followed (by decide +kernel)) trivial (by decide +kernel)
      (by decide +kernel)
  have hfree : ∀ c, varied.busy ≠ some (c, true) := by
    have hholds : varied.busy.any (·.2) = false := by decide +kernel
    intro c hc
    rw [hc] at hholds
    cases hholds
  exact ⟨_, _, _, ho, hvaried, hfree, each_query_counts_once ho hvaried hfree⟩

end Office
end Failover

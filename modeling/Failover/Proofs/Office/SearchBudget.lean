import Failover.Proofs.Session.Attempts

/-!
Budgets bound the searches. Over a stretch in which the attempts of a session are only counted on,
each search uses up an attempt that was counted before, and so there are no more of them than the
budget has.
-/
namespace Failover
open Desk Routine

/-- An attempt has been counted over the end of all numbers, and the count is at zero again. -/
def Change.RunsOver (e : Change Desk) : Prop :=
  e.Counts ∧ e.after.session.outage.attempts = 0

theorem toNat_succ {a : UInt32} (h : a + 1 ≠ 0) : (a + 1).toNat = a.toNat + 1 := by
  have hadd : (a + 1).toNat = (a.toNat + 1) % 4294967296 := by
    rw [UInt32.toNat_add]
    rfl
  have hlt : a.toNat < 4294967296 := a.toNat_lt
  have hne : (a + 1).toNat ≠ 0 := fun hz => h (UInt32.toNat_inj.1 hz)
  omega

theorem succ_ne_zero_of_lt {a b : UInt32} (h : a < b) : a + 1 ≠ 0 := by
  intro hz
  have hadd : (a + 1).toNat = (a.toNat + 1) % 4294967296 := by
    rw [UInt32.toNat_add]
    rfl
  have hb : b.toNat < 4294967296 := b.toNat_lt
  have hzero : (a + 1).toNat = 0 := by rw [hz]; rfl
  rw [UInt32.lt_iff_toNat_lt] at h
  omega

theorem Change.Counts.attempts {e : Change Desk} (h : e.Counts) :
    e.after.session.outage.attempts = e.before.session.outage.attempts + 1 := by
  obtain ⟨now, h⟩ := h
  rw [h]
  rfl

theorem Change.Counts.silent {e : Change Desk} (h : e.Counts) (deed : Deed) :
    e.after.session.journal ≠ deed :: e.before.session.journal := by
  obtain ⟨now, h⟩ := h
  rw [h]
  exact fun hj => List.cons_ne_self deed _ hj.symm

theorem counted_cons {t : List (Change Desk)} {e x : Change Desk} :
    Counted (e :: t) x ↔ (x = e ∧ e.own = true ∧ e.Counts) ∨
      (Counted t x ∧ (e.own = true → e.after.session = e.before.session)) := by
  constructor
  · rintro ⟨later, earlier, ht, hown, hcounts, hsame⟩
    cases later with
    | nil =>
      obtain ⟨rfl, -⟩ := List.cons.inj ht
      exact .inl ⟨rfl, hown, hcounts⟩
    | cons y later =>
      obtain ⟨rfl, rfl⟩ := List.cons.inj ht
      obtain ⟨he, hsame⟩ := List.forall_mem_cons.1 hsame
      exact .inr ⟨⟨later, earlier, rfl, hown, hcounts, hsame⟩, he⟩
  · rintro (⟨rfl, hown, hcounts⟩ | ⟨h, he⟩)
    · exact ⟨[], t, rfl, hown, hcounts, by simp⟩
    · exact h.cons he

theorem not_counted_nil (x : Change Desk) : ¬Counted [] x := by
  rintro ⟨later, earlier, ht, -⟩
  simp at ht

theorem Deed.exists_needs {deed : Deed} (h : deed.isSearch = true) :
    ∃ needs, deed = .search needs := by
  cases deed with
  | search needs => exact ⟨needs, rfl⟩
  | _ => cases h

theorem Deed.exists_host {deed : Deed} (h : deed.isConnect = true) :
    ∃ host, deed = .connect host := by
  cases deed with
  | connect host => exact ⟨host, rfl⟩
  | _ => cases h

namespace Office
variable {ask : Request → Prop} {visitor : Clerk → Prop} {outside : Desk → Desk → Prop}
  {o₀ o₁ o o' : Office} {ds : List (Duty × Deed)} {policy : Policy} {n : Nat}

/-- What whoever is at work writes into the journal in a step, with what they are there for. -/
def deeds (o o' : Office) : List (Duty × Deed) :=
  match o.busy, o'.desk.session.journal with
  | some (c, _), deed :: earlier =>
    if earlier = o.desk.session.journal then [(c.duty, deed)] else []
  | _, _ => []

/-- A stretch of a run over which no attempt is taken back, and what is done meanwhile, the latest
first. -/
inductive Stretch (ask : Request → Prop) (visitor : Clerk → Prop) (outside : Desk → Desk → Prop)
    (o₁ : Office) : List (Duty × Deed) → Office → Prop
  | start : Stretch ask visitor outside o₁ [] o₁
  | step {ds : List (Duty × Deed)} {o o' : Office} :
      Stretch ask visitor outside o₁ ds o → Step ask outside o o' →
      o.desk.session.outage.attempts ≤ o'.desk.session.outage.attempts →
      Stretch ask visitor outside o₁ (o.deeds o' ++ ds) o'
  | visit {ds : List (Duty × Deed)} {o : Office} {c : Clerk} :
      Stretch ask visitor outside o₁ ds o → o.busy = none → visitor c →
      Stretch ask visitor outside o₁ ds { o with idle := c :: o.idle }

theorem mem_deeds {x : Duty × Deed} : x ∈ o.deeds o' ↔ ∃ c holds, o.busy = some (c, holds) ∧
    c.duty = x.1 ∧ o'.desk.session.journal = x.2 :: o.desk.session.journal := by
  unfold deeds
  split
  · rename_i c holds deed earlier hbusy hj
    split
    · rename_i he
      subst he
      rw [List.mem_singleton, hbusy, hj]
      constructor
      · rintro rfl
        exact ⟨c, holds, rfl, rfl, rfl⟩
      · rintro ⟨_, _, hc, hduty, hcons⟩
        cases hc
        exact Prod.ext hduty.symm (List.cons.inj hcons).1.symm
    · rename_i he
      simp only [List.not_mem_nil, false_iff]
      rintro ⟨_, _, -, -, hcons⟩
      rw [hj] at hcons
      exact he (List.cons.inj hcons).2
  · rename_i hnone
    simp only [List.not_mem_nil, false_iff]
    rintro ⟨c, holds, hbusy, -, hcons⟩
    exact hnone c holds _ _ hbusy hcons

theorem countP_deeds (o o' : Office) (p : Duty × Deed → Bool) : (o.deeds o').countP p = 0 ∨
    (o.deeds o').countP p = 1 ∧ ∃ x ∈ o.deeds o', p x = true := by
  have hlength : (o.deeds o').length ≤ 1 := by
    unfold deeds
    split
    · split <;> simp
    · simp
  have hle := Nat.le_trans (List.countP_le_length (p := p)) hlength
  rcases Nat.eq_zero_or_pos ((o.deeds o').countP p) with h | h
  · exact .inl h
  · exact .inr ⟨Nat.le_antisymm hle h, List.countP_pos_iff.1 h⟩

theorem Proper.deed_of_mem (hp : o.Proper (thrift policy)) (hs : Step ask SameSession o o')
    {x : Duty × Deed} (hx : x ∈ o.deeds o') (hplain : ¬x.2.Plain) :
    o'.desk.session.journal = x.2 :: o.desk.session.journal ∧
      (∃ c, o.busy = some (c, true)) ∧ ∃ now, Spends x.1 o.tenure ⟨true, now, o.desk, o'.desk⟩ := by
  obtain ⟨c, holds, hbusy, hduty, hj⟩ := mem_deeds.1 hx
  refine ⟨hj, ?_⟩
  rcases hp.tenure (fun _ _ h => SameSession.searchesNothing h) hs with
    ⟨hsame, -⟩ | ⟨own, now, -, hdeed⟩
  · rw [hsame] at hj
    exact (List.cons_ne_self x.2 _ hj.symm).elim
  · cases own with
    | false => exact (hplain (Notes.said (SearchesNothing.notes hdeed) hj)).elim
    | true =>
      obtain ⟨c', hbusy', hown⟩ := hdeed
      rw [hbusy] at hbusy'
      cases hbusy'
      rw [← hduty]
      exact ⟨⟨c, hbusy⟩, now, hown⟩

/-- If the lock is held, this is so of all that has happened since it was taken. -/
def SinceLocked (P : Change Desk → Prop) (o : Office) : Prop := o.Unlocked ∨ ∀ e ∈ o.tenure, P e

theorem Proper.sinceLocked {P : Change Desk → Prop} (hp : o.Proper (thrift policy))
    (hs : Step ask SameSession o o') (h : o.SinceLocked P)
    (hnew : ∀ own now, P ⟨own, now, o.desk, o'.desk⟩) : o'.SinceLocked P := by
  have hreset (ht : o'.tenure = []) : ∀ e ∈ o'.tenure, P e := by
    rw [ht]
    simp
  rcases h with hfree | htenure
  · exact (hfree.step hs).imp_right hreset
  · right
    rcases hp.tenure (fun _ _ h => SameSession.searchesNothing h) hs with
      ⟨-, ht | ht⟩ | ⟨own, now, ht, -⟩
    · rwa [ht]
    · exact hreset ht
    · rw [ht]
      exact List.forall_mem_cons.2 ⟨hnew own now, htenure⟩

/-- A search is made by the holder of the lock, and has been counted by the attempts there are,
within the budget. -/
theorem Proper.search_of_mem (hp : o.Proper (thrift policy)) (hs : Step ask SameSession o o')
    {x : Duty × Deed} (hx : x ∈ o.deeds o') (hsearch : x.2.isSearch = true) :
    (∃ needs, x.2 = .search needs) ∧ (∃ c, o.busy = some (c, true)) ∧ ∃ y, Counted o.tenure y ∧
      y.after.session.outage.attempts = o.desk.session.outage.attempts ∧
      (policy = .single → x.1.isReconnect = false →
        y.before.session.outage.attempts < o.desk.session.options.maxReconnects) ∧
      (policy = .replicated →
        o.desk.session.outage.attempts < o.desk.session.options.retriesAllDown) := by
  have hplain : ¬x.2.Plain := fun hd => by simp [hd.1] at hsearch
  obtain ⟨hj, hbusy, now, hown⟩ := hp.deed_of_mem hs hx hplain
  obtain ⟨needs, hneeds⟩ := Deed.exists_needs hsearch
  rw [hneeds] at hj
  obtain ⟨y, hy, heq, hbudget⟩ := hown.search needs hj
  dsimp only at heq hbudget
  rw [hp.always.1] at hbudget
  exact ⟨⟨needs, hneeds⟩, hbusy, y, hy, heq, hbudget⟩

/-- So many searches have been paid for, and an attempt that is still to be used is not among those
that paid for them. -/
structure Paid (n : Nat) (o : Office) : Prop where
  spent : n ≤ o.desk.session.outage.attempts.toNat
  due : ∀ x, Counted o.tenure x → x.after.session.outage.attempts ≠ 0 →
    n < x.after.session.outage.attempts.toNat

theorem paid_zero (o : Office) : Paid 0 o :=
  ⟨Nat.zero_le _, fun _ _ hne =>
    Nat.pos_of_ne_zero fun hz => hne (UInt32.toNat_inj.1 hz)⟩

/-- A step pays for a search only with an attempt that was still to be used. -/
theorem Paid.step {m : Nat} (h : Paid n o) (hp : o.Proper (thrift policy))
    (hs : Step ask SameSession o o')
    (hle : o.desk.session.outage.attempts ≤ o'.desk.session.outage.attempts)
    (hm : m = n ∨ m = n + 1 ∧
      (∃ needs, o'.desk.session.journal = .search needs :: o.desk.session.journal) ∧
      ∃ x, Counted o.tenure x ∧ x.after.session.outage.attempts ≠ 0 ∧
        x.after.session.outage.attempts = o.desk.session.outage.attempts) : Paid m o' := by
  have hle' := UInt32.le_iff_toNat_le.1 hle
  rcases hp.tenure (fun _ _ h => SameSession.searchesNothing h) hs with
    ⟨hsame, ht⟩ | ⟨own, now, ht, hdeed⟩
  · obtain rfl : m = n := by
      refine hm.resolve_right fun hd => ?_
      obtain ⟨-, ⟨needs, hj⟩, -⟩ := hd
      rw [hsame] at hj
      exact List.cons_ne_self _ _ hj.symm
    refine ⟨Nat.le_trans h.spent hle', fun x hx => ?_⟩
    rcases ht with ht | ht <;> rw [ht] at hx
    · exact h.due x hx
    · exact (not_counted_nil x hx).elim
  · have hnosearch (hj : ∃ needs, o'.desk.session.journal = .search needs :: o.desk.session.journal)
        (hidle : own = true → o'.desk.session = o.desk.session) : False := by
      obtain ⟨needs, hj⟩ := hj
      cases own with
      | true =>
        rw [hidle rfl] at hj
        exact List.cons_ne_self _ _ hj.symm
      | false => cases (Notes.said (SearchesNothing.notes hdeed) hj).1
    refine ⟨?_, fun x hx hne => ?_⟩
    · rcases hm with rfl | ⟨rfl, -, x, hx, hne, heq⟩
      · exact Nat.le_trans h.spent hle'
      · have hdue := h.due x hx hne
        rw [heq] at hdue
        exact Nat.le_trans hdue hle'
    · rw [ht] at hx
      rcases counted_cons.1 hx with ⟨rfl, -, hcounts⟩ | ⟨hx, hidle⟩
      · obtain rfl : m = n := by
          refine hm.resolve_right fun hd => ?_
          obtain ⟨-, ⟨needs, hj⟩, -⟩ := hd
          exact hcounts.silent _ hj
        have hsucc := hcounts.attempts
        dsimp only at hsucc hne ⊢
        rw [hsucc] at hne ⊢
        rw [toNat_succ hne]
        exact Nat.lt_succ_of_le h.spent
      · obtain rfl : m = n := hm.resolve_right fun hd => hnosearch hd.2.1 hidle
        exact h.due x hx hne

theorem heeds_handsIn {c : Clerk} (hc : HandsIn c) : Heeds (thrift policy) c := by
  obtain ⟨e, role, x, rfl⟩ := hc
  intro d hd
  refine Minds.bind (minds_locked (admits_thrift policy).toLasts fun d hd _ => ?_)
    fun _ _ _ => ⟨rfl, trivial⟩
  exact (Act.thrifty_moves (Act.moves_found role x) hd.1).mono fun _ _ _ _ => trivial

theorem Proper.terms (hp : o.Proper (thrift policy)) (hs : Step ask SameSession o o') :
    SameTerms o.desk o'.desk ∧ Notes (fun _ => True) o.desk o'.desk := by
  rcases hp.deed (fun _ _ h => SameSession.searchesNothing h) hs with hsame | hq | ⟨c, now, -, hown⟩
  · rw [hsame]
    exact ⟨.refl _, .inl rfl⟩
  · have hq : SearchesNothing o.desk o'.desk := hq
    exact ⟨hq.toSameTerms, hq.notes.mono fun _ _ => trivial⟩
  · exact ⟨Spends.terms hown, Spends.notes hown⟩

theorem Proper.journal (hp : o.Proper (thrift policy)) (hs : Step ask SameSession o o') :
    o'.desk.session.journal = (o.deeds o').map Prod.snd ++ o.desk.session.journal := by
  have hsilent (hj : o'.desk.session.journal = o.desk.session.journal) : o.deeds o' = [] := by
    refine List.eq_nil_iff_forall_not_mem.2 fun x hx => ?_
    obtain ⟨_, _, _, _, hcons⟩ := mem_deeds.1 hx
    rw [hj] at hcons
    exact List.cons_ne_self _ _ hcons.symm
  rcases (hp.terms hs).2 with hj | ⟨deed, -, hj⟩
  · rw [hsilent hj]
    exact hj
  · cases hbusy : o.busy with
    | some b =>
      simp only [deeds, hbusy, hj, ↓reduceIte]
      rfl
    | none =>
      refine absurd hj ?_
      cases hs with
      | befall now d _ hout =>
        have hout : d.session = o.desk.session := hout
        simp [change, hout]
      | call | resume | wake => simp
      | act _ hb | goOn hb | sleep hb | queue hb | lock hb | unlock hb | start hb | finish hb
        | carryOn hb => simp [hbusy] at hb

namespace Stretch

theorem proper (hp : o₁.Proper (thrift policy)) (h : Stretch ask HandsIn SameSession o₁ ds o) :
    o.Proper (thrift policy) := by
  have hh := admits_thrift policy
  induction h with
  | start => exact hp
  | step _ hs _ ih =>
    exact ih.step hh.toLasts (fun _ _ h => SameSession.searchesNothing h)
      (fun r _ => hh.request r.asks_all) hh.errand hs
  | visit _ _ hc ih => exact ih.visit (heeds_handsIn hc)

theorem terms (hp : o₁.Proper (thrift policy)) (h : Stretch ask HandsIn SameSession o₁ ds o) :
    SameTerms o₁.desk o.desk := by
  induction h with
  | start => exact .refl _
  | step h hs _ ih => exact ih.trans ((h.proper hp).terms hs).1
  | visit _ _ _ ih => exact ih

theorem journal (hp : o₁.Proper (thrift policy)) (h : Stretch ask HandsIn SameSession o₁ ds o) :
    o.desk.session.journal = ds.map Prod.snd ++ o₁.desk.session.journal := by
  induction h with
  | start => rfl
  | visit _ _ _ ih => exact ih
  | step h hs _ ih => rw [(h.proper hp).journal hs, ih, List.map_append, List.append_assoc]

/-- If each search of a kind has been counted within a limit, there are no more of them. -/
theorem bounded {p : Duty × Deed → Bool} {limit : Nat} (hp : o₁.Proper (thrift policy))
    (h : Stretch ask HandsIn SameSession o₁ ds o)
    (hrule : ∀ {ds o o'}, Stretch ask HandsIn SameSession o₁ ds o → Step ask SameSession o o' →
      ∀ x ∈ o.deeds o', p x = true → (∃ needs, x.2 = .search needs) ∧ ∃ y, Counted o.tenure y ∧
        y.after.session.outage.attempts ≠ 0 ∧
        y.after.session.outage.attempts = o.desk.session.outage.attempts ∧
        o.desk.session.outage.attempts.toNat ≤ limit) :
    Paid (ds.countP p) o ∧ ds.countP p ≤ limit := by
  induction h with
  | start => exact ⟨paid_zero _, Nat.zero_le _⟩
  | visit _ _ _ ih => exact ⟨⟨ih.1.spent, ih.1.due⟩, ih.2⟩
  | @step ds o o' h hs hle ih =>
    obtain ⟨hpaid, hlimit⟩ := ih
    rw [List.countP_append]
    rcases countP_deeds o o' p with hnone | ⟨hone, x, hx, hpx⟩
    · rw [hnone, Nat.zero_add]
      exact ⟨hpaid.step (h.proper hp) hs hle (.inl rfl), hlimit⟩
    · rw [hone, Nat.add_comm]
      obtain ⟨⟨needs, hsearch⟩, y, hy, hne, heq, hmax⟩ := hrule h hs x hx hpx
      obtain ⟨_, _, _, _, hj⟩ := mem_deeds.1 hx
      rw [hsearch] at hj
      have hdue := hpaid.due y hy hne
      rw [heq] at hdue
      exact ⟨hpaid.step (h.proper hp) hs hle (.inr ⟨rfl, ⟨needs, hj⟩, y, hy, hne, heq⟩),
        Nat.le_trans hdue hmax⟩

theorem single (hp : o₁.Proper (thrift .single)) (h : Stretch ask HandsIn SameSession o₁ ds o) :
    ds.countP (fun x => !x.1.isReconnect && x.2.isSearch) ≤
      o₁.desk.session.options.maxReconnects.toNat := by
  refine (h.bounded hp fun h hs x hx hkind => ?_).2
  obtain ⟨hunasked, hsearch⟩ := Bool.and_eq_true_iff.1 hkind
  obtain ⟨hneeds, -, y, hy, heq, hbudget, -⟩ := (h.proper hp).search_of_mem hs hx hsearch
  have hlt := hbudget rfl (by simpa using hunasked)
  rw [(h.terms hp).options] at hlt
  obtain ⟨_, _, -, -, hcounts, -⟩ := id hy
  have hsucc := hcounts.attempts
  have hne := succ_ne_zero_of_lt hlt
  refine ⟨hneeds, y, hy, by rwa [hsucc], heq, ?_⟩
  rw [← heq, hsucc, toNat_succ hne]
  exact UInt32.lt_iff_toNat_lt.1 hlt

theorem spent {budget : UInt32} (hp : o₁.Proper (thrift .single))
    (h : Stretch ask HandsIn SameSession o₁ ds o)
    (hbudget : o₁.desk.session.options.maxReconnects = budget)
    (hspent : budget ≤ o₁.desk.session.outage.attempts)
    (hheld : o₁.SinceLocked fun e => budget ≤ e.before.session.outage.attempts) :
    (∀ x ∈ ds, x.2.isConnect = true → x.1.isReconnect = true) ∧
      budget ≤ o.desk.session.outage.attempts ∧
      o.SinceLocked fun e => budget ≤ e.before.session.outage.attempts := by
  induction h with
  | start => exact ⟨by simp, hspent, hheld⟩
  | visit _ _ _ ih => exact ih
  | @step ds o o' h hs hle ih =>
    obtain ⟨hall, hover, hheld⟩ := ih
    have hp' := h.proper hp
    refine ⟨List.forall_mem_append.2 ⟨fun x hx hconnect => ?_, hall⟩, UInt32.le_trans hover hle,
      hp'.sinceLocked hs hheld fun _ _ => hover⟩
    have hplain : ¬x.2.Plain := fun hd => by simp [hd.2] at hconnect
    obtain ⟨hj, ⟨c, hbusy⟩, now, hown⟩ := hp'.deed_of_mem hs hx hplain
    obtain ⟨host, hhost⟩ := Deed.exists_host hconnect
    rw [hhost] at hj
    by_contra hasked
    obtain ⟨y, hy, hlt⟩ := hown.connect host hj hp'.always.1 (by simpa using hasked)
    dsimp only at hlt
    rw [(h.terms hp).options, hbudget] at hlt
    exact UInt32.not_le.2 hlt (hheld.resolve_left (fun hfree => hfree.2 c hbusy) y hy)

theorem whole (hp : o₁.Proper (thrift policy)) (h : Stretch ask HandsIn SameSession o₁ ds o)
    (hwhole : o₁.SinceLocked fun e => ¬e.RunsOver) : o.SinceLocked fun e => ¬e.RunsOver := by
  induction h with
  | start => exact hwhole
  | visit _ _ _ ih => exact ih
  | step h hs hle ih =>
    refine (h.proper hp).sinceLocked hs ih fun _ _ hover => ?_
    obtain ⟨hcounts, hzero⟩ := hover
    have hsucc := hcounts.attempts
    dsimp only at hzero hsucc
    rw [hzero] at hle hsucc
    rw [UInt32.le_zero_iff.1 hle] at hsucc
    exact absurd hsucc (by decide)

theorem replicated (hp : o₁.Proper (thrift .replicated))
    (h : Stretch ask HandsIn SameSession o₁ ds o) (hwhole : o₁.SinceLocked fun e => ¬e.RunsOver) :
    ds.countP (fun x => x.2.isSearch) ≤ o₁.desk.session.options.retriesAllDown.toNat - 1 := by
  refine (h.bounded hp fun h hs x hx hsearch => ?_).2
  obtain ⟨hneeds, ⟨c, hbusy⟩, y, hy, heq, -, hbudget⟩ := (h.proper hp).search_of_mem hs hx hsearch
  have hlt := UInt32.lt_iff_toNat_lt.1 (hbudget rfl)
  rw [(h.terms hp).options] at hlt
  obtain ⟨later, earlier, ht, -, hcounts, -⟩ := id hy
  have hne : y.after.session.outage.attempts ≠ 0 := fun hzero =>
    (h.whole hp hwhole).resolve_left (fun hfree => hfree.2 c hbusy) y (by simp [ht])
      ⟨hcounts, hzero⟩
  exact ⟨hneeds, y, hy, hne, heq, Nat.le_sub_one_of_lt hlt⟩

end Stretch

theorem Begun.thrifty {t₀ t : List (Change Desk)} (ho : o₀.Begun SameSession)
    (h : Chronicle ask HandsIn SameSession t₀ o₀ t o) : o.Proper (thrift o.desk.session.policy) := by
  have hh := admits_thrift o₀.desk.session.policy
  obtain ⟨_, _, _, _, _, hplay⟩ := ho.connected
  have hp := h.proper hh.toLasts (fun _ _ h => SameSession.searchesNothing h)
    (fun r _ => hh.request r.asks_all) hh.errand (fun _ hc => heeds_handsIn hc)
    (ho.proper hh trivial ⟨rfl, Act.pings_connect (fun _ _ h => h) hplay⟩)
  rwa [hp.always.1]

end Office

namespace Act

theorem spent_reconnectReplicated {others : Desk → Desk → Prop} {t t' : List (Change Desk)}
    {d d' : Desk} {x : Except Error Unit}
    (hspent : d.session.options.retriesAllDown ≤ d.session.outage.attempts + 1)
    (hplay : reconnectReplicated.Plays others t d x t' d') :
    x = .error (.tooManyAttempts (d.session.outage.attempts + 1)) ∧ ∃ now,
      d' = ⟨{ d.session with outage := d.session.outage.recordAttempt now }, d.network⟩ := by
  obtain ⟨_, t₁, d₁, hcount, hplay⟩ := plays_bind.1 hplay
  obtain ⟨now, rfl, rfl⟩ := plays_change.1 hcount
  obtain ⟨s, t₂, d₂, hread, hplay⟩ := plays_bind.1 hplay
  obtain ⟨now', rfl, rfl, rfl⟩ := plays_read.1 hread
  split at hplay
  · obtain ⟨rfl, rfl, rfl⟩ := plays_pure.1 hplay
    exact ⟨rfl, now, rfl⟩
  · rename_i hleft
    exact (hleft hspent).elim

end Act

namespace Office
variable {ask : Request → Prop} {o₀ o₁ o : Office} {ds : List (Duty × Deed)}

/-- Over a stretch in which no attempt is taken back a session with one writer searches on its own
no more often than its budget has it, and once that is spent nobody connects to anyone, save who was
asked for a reconnection and the search that spent it. A session with a replica searches less often
than its budget has it, whoever it may be for, and a reconnection beyond that comes to nothing. -/
theorem budget_bounds_searches {t₀ t : List (Change Desk)} (ho : o₀.Begun SameSession)
    (h : Chronicle ask HandsIn SameSession t₀ o₀ t o₁)
    (hs : Stretch ask HandsIn SameSession o₁ ds o) :
    o.desk.session.journal = ds.map Prod.snd ++ o₁.desk.session.journal ∧
    (o₁.desk.session.policy = .single →
      ds.countP (fun x => !x.1.isReconnect && x.2.isSearch) ≤
        o₁.desk.session.options.maxReconnects.toNat ∧
      (o₁.desk.session.options.maxReconnects ≤ o₁.desk.session.outage.attempts →
        (o₁.SinceLocked fun e =>
          o₁.desk.session.options.maxReconnects ≤ e.before.session.outage.attempts) →
        ∀ x ∈ ds, x.2.isConnect = true → x.1.isReconnect = true)) ∧
    (o₁.desk.session.policy = .replicated →
      ((o₁.SinceLocked fun e => ¬e.RunsOver) →
        ds.countP (fun x => x.2.isSearch) ≤ o₁.desk.session.options.retriesAllDown.toNat - 1) ∧
      ∀ d : Desk, d.session.options.retriesAllDown ≤ d.session.outage.attempts + 1 →
        ∀ others t x t' d', Act.reconnectReplicated.Plays others t d x t' d' →
          x = .error (.tooManyAttempts (d.session.outage.attempts + 1)) ∧ ∃ now,
            d' = ⟨{ d.session with outage := d.session.outage.recordAttempt now }, d.network⟩) := by
  have hp := ho.thrifty h
  refine ⟨hs.journal hp, fun hsingle => ?_, fun hreplicated => ?_⟩
  · rw [hsingle] at hp
    exact ⟨hs.single hp, fun hspent hheld => (hs.spent hp rfl hspent hheld).1⟩
  · rw [hreplicated] at hp
    exact ⟨hs.replicated hp, fun d hspent _ _ _ _ _ hplay =>
      Act.spent_reconnectReplicated hspent hplay⟩

def tally (now : Nat) : Nat → Office → List (Duty × Deed)
  | 0, _ => []
  | k + 1, o =>
    match o.proceed now with
    | none => []
    | some o' => o'.tally now k ++ o.deeds o'

/-- No attempt is taken back meanwhile. -/
def steady (now : Nat) : Nat → Office → Bool
  | 0, _ => true
  | k + 1, o =>
    match o.proceed now with
    | none => true
    | some o' =>
      decide (o.desk.session.outage.attempts ≤ o'.desk.session.outage.attempts) && o'.steady now k

theorem Stretch.work {visitor : Clerk → Prop} {outside : Desk → Desk → Prop} {now k : Nat}
    (h : Stretch ask visitor outside o₁ ds o) (hsteady : o.steady now k = true) :
    Stretch ask visitor outside o₁ (o.tally now k ++ ds) (o.work now k) := by
  induction k generalizing o ds with
  | zero => exact h
  | succ k ih =>
    simp only [steady, tally, Office.work] at hsteady ⊢
    cases ho : o.proceed now with
    | none => exact h
    | some o' =>
      rw [ho] at hsteady
      obtain ⟨hle, hsteady⟩ := Bool.and_eq_true_iff.1 hsteady
      dsimp only
      rw [List.append_assoc]
      exact ih (h.step (step_of_proceed ho) (of_decide_eq_true hle)) hsteady

theorem Stretch.serve {visitor : Clerk → Prop} {outside : Desk → Desk → Prop} {r : Request}
    (h : Stretch ask visitor outside o₁ ds o) (hbusy : o.busy = none) (hr : ask r) :
    Stretch ask visitor outside o₁ ds (o.serving r) := by
  have hquiet (idle : List Clerk) (o' : Office) : deeds { o with idle := idle } o' = [] := by
    simp [deeds, hbusy]
  have hcalled := h.step (.call r hbusy hr) (UInt32.le_refl _)
  have hserved := hcalled.step
    (@Step.resume ask outside { o with idle := .fresh (.request r) :: o.idle } _ [] o.idle hbusy rfl)
    (UInt32.le_refl _)
  rwa [hquiet, show o.deeds _ = [] from hquiet o.idle _] at hserved

/-- A new session over two hosts, of which it wants the one that writes, and looks for it once. -/
def frugal : Desk :=
  let hosts := Cluster.replicationHosts 1
  ⟨Session.unopened (.ofHosts .masterOnly (hosts.map (·.1)))
      { autoReconnect := true, maxReconnects := 1 } .own, { cluster := .ofHosts hosts }⟩

def forsaken : Office :=
  (opened frugal).amid fun c => (c.stop ⟨"mock-0", 3306⟩).stop ⟨"mock-1", 3307⟩

def asked (o : Office) : Office := (o.serving (.execute (.query "SELECT 1"))).work 0 60

def answering (o : Office) : List (Duty × Deed) :=
  (o.serving (.execute (.query "SELECT 1"))).tally 0 60

theorem stretch_asked {visitor : Clerk → Prop} {outside : Desk → Desk → Prop}
    (hbusy : o.busy.isNone = true)
    (hsteady : (o.serving (.execute (.query "SELECT 1"))).steady 0 60 = true) :
    Stretch (fun _ => True) visitor outside o o.answering o.asked := by
  have hserved : Stretch (fun _ => True) visitor outside o []
      (o.serving (.execute (.query "SELECT 1"))) :=
    Stretch.start.serve (Option.isNone_iff_eq_none.1 hbusy) trivial
  have h := hserved.work hsteady
  rwa [List.append_nil] at h

/-- The one search that the budget has is made, and the next failure has nobody connect to anyone.
-/
theorem budget_bounds_searches_forsaken : ∃ o₀ o₁ o₂ o₃ : Office, ∃ t t' ds ds', o₀.Begun SameSession ∧
    Chronicle (fun _ => True) HandsIn SameSession [] o₀ t o₁ ∧
    Stretch (fun _ => True) HandsIn SameSession o₁ ds o₂ ∧
    o₁.desk.session.policy = .single ∧ o₁.desk.session.options.maxReconnects = 1 ∧
    ds.countP (fun x => !x.1.isReconnect && x.2.isSearch) = 1 ∧
    Chronicle (fun _ => True) HandsIn SameSession [] o₀ t' o₂ ∧
    Stretch (fun _ => True) HandsIn SameSession o₂ ds' o₃ ∧ ds'.length = 1 ∧
    ∀ x ∈ ds', x.2.isConnect = true → x.1.isReconnect = true := by
  have ho : (opened frugal).Begun SameSession := begun_opened (by decide +kernel)
  have hforsaken : Chronicle (fun _ => True) HandsIn SameSession [] (opened frugal)
      [⟨false, 0, (opened frugal).desk, forsaken.desk⟩] forsaken :=
    Chronicle.opened.step (.befall 0 _ rfl rfl) (.inr ⟨_, rfl, rfl⟩)
  have hfirst : Stretch (fun _ => True) HandsIn SameSession forsaken forsaken.answering
      forsaken.asked := stretch_asked (by decide +kernel) (by decide +kernel)
  have hsecond : Stretch (fun _ => True) HandsIn SameSession forsaken.asked forsaken.asked.answering
      forsaken.asked.asked := stretch_asked (by decide +kernel) (by decide +kernel)
  have hlater := (hforsaken.serve (r := .execute (.query "SELECT 1")) rfl trivial).work 0 60
  have hfree : forsaken.asked.Unlocked := unlocked_of_rest (by decide +kernel) (by decide +kernel)
  have hbudget := (budget_bounds_searches ho hlater hsecond).2.1 (by decide +kernel)
  exact ⟨_, _, _, _, _, _, _, _, ho, hforsaken, hfirst, by decide +kernel, by decide +kernel,
    by decide +kernel, hlater, hsecond, by decide +kernel,
    hbudget.2 (by decide +kernel) (.inl hfree)⟩

end Office
end Failover

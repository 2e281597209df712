import Failover.Proofs.Office.Requests
import Failover.Proofs.Office.Founded
import Failover.Proofs.Session.Moves

/-!
How a session spends its attempts. Every search has been counted before, and nobody counts on who
finds the budget spent.
-/
namespace Failover
open Desk Routine

def Change.Counts (e : Change Desk) : Prop :=
  ∃ now, e.after.session =
    { e.before.session with outage := e.before.session.outage.recordAttempt now }

/-- The holder of the lock has counted an attempt by this change, and has done nothing to the
session since. -/
def Counted (t : List (Change Desk)) (e : Change Desk) : Prop :=
  ∃ later earlier, t = later ++ e :: earlier ∧ e.own = true ∧ e.Counts ∧
    ∀ x ∈ later, x.own = true → x.after.session = x.before.session

theorem Counted.head (now : Nat) (t : List (Change Desk)) (d : Desk) :
    Counted (⟨true, now, d,
        ⟨{ d.session with outage := d.session.outage.recordAttempt now }, d.network⟩⟩ :: t)
      ⟨true, now, d, ⟨{ d.session with outage := d.session.outage.recordAttempt now }, d.network⟩⟩ :=
  ⟨[], t, rfl, rfl, ⟨now, rfl⟩, by simp⟩

theorem Counted.cons {t : List (Change Desk)} {e x : Change Desk} (h : Counted t x)
    (he : e.own = true → e.after.session = e.before.session) : Counted (e :: t) x := by
  obtain ⟨later, earlier, rfl, hown, hcount, hsame⟩ := h
  exact ⟨e :: later, earlier, rfl, hown, hcount, List.forall_mem_cons.2 ⟨he, hsame⟩⟩

/-- A caller has asked for just this: that a reconnection is tried, whatever it takes. -/
def Duty.isReconnect : Duty → Bool
  | .request .reconnect => true
  | _ => false

namespace Desk

def SameSession (d d' : Desk) : Prop := d'.session = d.session

/-- What nobody touches while a session is open: its terms, and with one writer the ping loop. -/
structure SameTerms (d d' : Desk) : Prop where
  topology : d'.session.topology = d.session.topology
  options : d'.session.options = d.session.options
  pings : d.session.policy = .single → d.session.pingLoop.AtRest →
    d'.session.pingLoop.AtRest

theorem SameTerms.refl (d : Desk) : SameTerms d d := ⟨rfl, rfl, fun _ => id⟩

theorem SameTerms.policy {d d' : Desk} (h : SameTerms d d') :
    d'.session.policy = d.session.policy := by
  rw [Session.policy, h.topology, Session.policy]

theorem SameTerms.trans {d d' d'' : Desk} (h : SameTerms d d') (h' : SameTerms d' d'') :
    SameTerms d d'' :=
  ⟨h'.topology.trans h.topology, h'.options.trans h.options,
    fun hp ha => h'.pings (h.policy.trans hp) (h.pings hp ha)⟩

def Notes (said : Deed → Prop) (d d' : Desk) : Prop :=
  d'.session.journal = d.session.journal ∨
    ∃ deed, said deed ∧ d'.session.journal = deed :: d.session.journal

theorem Notes.said {said : Deed → Prop} {d d' : Desk} (h : Notes said d d') {deed : Deed}
    (hj : d'.session.journal = deed :: d.session.journal) : said deed := by
  rcases h with hsame | ⟨deed', hs, hj'⟩
  · rw [hsame] at hj
    exact (List.cons_ne_self deed _ hj.symm).elim
  · rw [hj'] at hj
    obtain ⟨rfl, -⟩ := List.cons.inj hj
    exact hs

theorem Notes.mono {said said' : Deed → Prop} {d d' : Desk} (h : Notes said d d')
    (hs : ∀ deed, said deed → said' deed) : Notes said' d d' :=
  h.imp_right fun ⟨deed, hd, hj⟩ => ⟨deed, hs deed hd, hj⟩

/-- Nothing is counted, and neither is anything searched for nor anybody connected to. -/
structure SearchesNothing (d d' : Desk) : Prop extends SameTerms d d' where
  attempts : d'.session.outage.attempts = d.session.outage.attempts
  notes : Notes Deed.Plain d d'

theorem SameSession.searchesNothing {d d' : Desk} (h : SameSession d d') : SearchesNothing d d' := by
  refine ⟨⟨?_, ?_, fun _ => ?_⟩, ?_, .inl ?_⟩
  · rw [h]
  · rw [h]
  · rw [h]
    exact id
  · rw [h]
  · rw [h]

theorem Side.searchesNothing {calls : Network → Network → Prop} {asked : Operation → Prop}
    {d d' : Desk}
    (h : Side calls asked d d') : SearchesNothing d d' := by
  cases h with
  | network n _ => exact ⟨⟨rfl, rfl, fun _ => id⟩, rfl, .inl rfl⟩
  | invoke x op _ _ => exact ⟨⟨rfl, rfl, fun _ => id⟩, rfl, .inr ⟨_, ⟨rfl, rfl⟩, rfl⟩⟩
  | count =>
    refine ⟨⟨rfl, rfl, fun _ => id⟩, ?_, .inl rfl⟩
    simp only [Outage.countQuery]
    split <;> rfl
  | idle r _ hp =>
    refine ⟨⟨rfl, rfl, fun hs => ?_⟩, rfl, .inl rfl⟩
    rw [hp] at hs
    cases hs
  | staff users reconnecting => exact ⟨⟨rfl, rfl, fun _ => id⟩, rfl, .inl rfl⟩
  | leave now =>
    unfold Session.leave
    dsimp only
    split
    · exact ⟨⟨rfl, rfl, fun _ hr => hr.cancel now⟩, rfl, .inl rfl⟩
    · exact ⟨⟨rfl, rfl, fun _ => id⟩, rfl, .inl rfl⟩
  | ended g _ => exact ⟨⟨rfl, rfl, fun _ => id⟩, rfl, .inl rfl⟩
  | rested g => exact ⟨⟨rfl, rfl, fun _ hr => hr.finish g⟩, rfl, .inl rfl⟩

theorem Move.sameTerms {said : Deed → Prop} {met : Outage.Event → Prop} {d d' : Desk}
    (h : Move said met d d') : SameTerms d d' := by
  cases h <;> exact ⟨rfl, rfl, fun _ => id⟩

theorem Move.notes {said : Deed → Prop} {met : Outage.Event → Prop} {d d' : Desk}
    (h : Move said met d d') : Notes said d d' := by
  cases h with
  | note deed hs => exact .inr ⟨deed, hs, rfl⟩
  | _ => exact .inl rfl

end Desk

/-- What the holder of the lock may do. A search has been counted, within the budget that the
session has; and only one who has found some of it left, or was asked for a reconnection, connects
to anybody where there is one writer. -/
structure Spends (duty : Duty) (t : List (Change Desk)) (e : Change Desk) : Prop where
  terms : SameTerms e.before e.after
  notes : Notes (fun _ => True) e.before e.after
  search : ∀ needs, e.after.session.journal = .search needs :: e.before.session.journal →
    ∃ x, Counted t x ∧ x.after.session.outage.attempts = e.before.session.outage.attempts ∧
      (e.before.session.policy = .single → duty.isReconnect = false →
        x.before.session.outage.attempts < e.before.session.options.maxReconnects) ∧
      (e.before.session.policy = .replicated →
        e.before.session.outage.attempts < e.before.session.options.retriesAllDown)
  connect : ∀ host, e.after.session.journal = .connect host :: e.before.session.journal →
    e.before.session.policy = .single → duty.isReconnect = false →
    ∃ x ∈ t, x.before.session.outage.attempts < e.before.session.options.maxReconnects

theorem Spends.of_plain {duty : Duty} {t : List (Change Desk)} {d d' : Desk} {now : Nat}
    (h : SameTerms d d') (hplain : Notes Deed.Plain d d') : Spends duty t ⟨true, now, d, d'⟩ :=
  ⟨h, hplain.mono fun _ _ => trivial, fun _ hj => (by cases (hplain.said hj).1),
    fun _ hj => (by cases (hplain.said hj).2)⟩

theorem Spends.of_move {duty : Duty} {t : List (Change Desk)} {d d' : Desk} {now : Nat}
    (h : Move Deed.Plain (fun _ => True) d d') : Spends duty t ⟨true, now, d, d'⟩ :=
  .of_plain h.sameTerms h.notes

def thrift (policy : Policy) : House where
  lockFree := SearchesNothing
  own := Spends
  inOrder _ := True
  always d := d.session.policy = policy ∧ (policy = .single → d.session.pingLoop.AtRest)

namespace Act
variable {policy : Policy} {duty : Duty} {t : List (Change Desk)} {d : Desk} {needs : Needs}
  {op : Option Operation} {α : Type}

abbrev Thrifty (policy : Policy) (duty : Duty) (r : Act α) : List (Change Desk) → Desk → Prop :=
  r.Ensures ((thrift policy).rules duty) fun _ _ d => d.session.policy = policy

def InBudget (policy : Policy) (duty : Duty) (d : Desk) : Prop :=
  policy = .single → duty.isReconnect = false →
    d.session.outage.attempts < d.session.options.maxReconnects

theorem InBudget.searchesNothing {d' : Desk} (h : InBudget policy duty d) (hq : SearchesNothing d d') :
    InBudget policy duty d' := by
  intro hp hu
  rw [hq.attempts, hq.options]
  exact h hp hu

theorem thrifty_moves {r : Act α} (hr : r.Steps (Move Deed.Plain fun _ => True))
    (h : d.session.policy = policy) : r.Thrifty policy duty t d :=
  hr.ensures (F := fun _ d => d.session.policy = policy)
    (fun _ _ _ _ h hq => (SameTerms.policy (SearchesNothing.toSameTerms hq)).trans h)
    (fun _ _ _ _ h hm => ⟨Spends.of_move hm, hm.sameTerms.policy.trans h⟩) h

theorem thrifty_read {β : Type} {f : Nat → Desk → β} {k : β → Act α}
    {Q : α → List (Change Desk) → Desk → Prop}
    (h : ∀ now t, (k (f now d)).Ensures ((thrift policy).rules duty) Q t d) :
    (read f >>= k).Ensures ((thrift policy).rules duty) Q t d :=
  ensures_bind.2 (ensures_read.2 fun now => ⟨.of_move (.network d.network), h now _⟩)

section Searches

/-- Where one has found something left to spend the candidates may be tried. -/
theorem thrifty_scan (h : d.session.policy = policy)
    (hroom : policy = .single → duty.isReconnect = false →
      ∃ x ∈ t, x.before.session.outage.attempts < d.session.options.maxReconnects) :
    (scan needs).Thrifty policy duty t d := by
  have hsteps : (scan needs).Steps (Move (fun deed => deed.isSearch = false) fun _ => True) :=
    steps_scan (fun _ n => .network n) (fun _ deed hs => .note deed hs)
      (fun _ => .primary) (fun _ => .secondary) needs
  refine Ensures.mono (hsteps.ensures (F := fun t d' => d'.session.policy = policy ∧
    d'.session.options = d.session.options ∧ (policy = .single → duty.isReconnect = false →
      ∃ x ∈ t, x.before.session.outage.attempts < d.session.options.maxReconnects))
    (fun t d₁ d₂ now hd hq => ?_) (fun t d₁ d₂ now hd hm => ⟨?_, ?_⟩) ⟨h, rfl, hroom⟩)
    fun _ _ _ hd => hd.1
  · obtain ⟨hp, ho, hx⟩ := hd
    have hq : SearchesNothing d₁ d₂ := hq
    refine ⟨hq.policy.trans hp, hq.options.trans ho, fun hs hu => ?_⟩
    obtain ⟨x, hx, hlt⟩ := hx hs hu
    exact ⟨x, List.mem_cons_of_mem _ hx, hlt⟩
  · obtain ⟨hp, ho, hx⟩ := hd
    refine ⟨hm.sameTerms, hm.notes.mono fun _ _ => trivial,
      fun needs hj => (by cases hm.notes.said hj), fun host _ hs hu => ?_⟩
    rw [ho]
    exact hx (hp.symm.trans hs) hu
  · obtain ⟨hp, ho, hx⟩ := hd
    refine ⟨hm.sameTerms.policy.trans hp, hm.sameTerms.options.trans ho, fun hs hu => ?_⟩
    obtain ⟨x, hx, hlt⟩ := hx hs hu
    exact ⟨x, List.mem_cons_of_mem _ hx, hlt⟩

theorem thrifty_seek {x : Change Desk} (h : d.session.policy = policy) (hx : Counted t x)
    (hcount : x.after.session.outage.attempts = d.session.outage.attempts)
    (hsingle : policy = .single → duty.isReconnect = false →
      x.before.session.outage.attempts < d.session.options.maxReconnects)
    (hreplicated : policy = .replicated →
      d.session.outage.attempts < d.session.options.retriesAllDown) :
    (seek needs).Thrifty policy duty t d := by
  unfold seek
  split
  · exact h
  · refine ensures_bind.2 ?_
    rw [search_eq]
    refine ensures_bind.2 (ensures_change.2 fun now => ⟨⟨⟨rfl, rfl, fun _ => id⟩,
      .inr ⟨_, trivial, rfl⟩, fun needs' _ => ?_, fun host hj => ?_⟩, thrifty_scan h fun hs hu => ?_⟩)
    · exact ⟨x, hx, hcount, fun hp => hsingle (h.symm.trans hp),
        fun hp => hreplicated (h.symm.trans hp)⟩
    · cases (List.cons.inj hj).1
    · obtain ⟨later, earlier, rfl, -⟩ := hx
      exact ⟨x, by simp, hsingle hs hu⟩

theorem thrifty_reconnectSingle (h : d.session.policy = .single)
    (hroom : InBudget .single duty d) : reconnectSingle.Thrifty .single duty t d := by
  refine ensures_bind.2 (ensures_change.2 fun now => ⟨.of_move (.outage (.attempt now) trivial), ?_⟩)
  exact thrifty_seek h (.head now t d) rfl hroom nofun

theorem thrifty_reconnectReplicated (h : d.session.policy = .replicated) :
    reconnectReplicated.Thrifty .replicated duty t d := by
  refine ensures_bind.2 (ensures_change.2 fun now => ⟨.of_move (.outage (.attempt now) trivial), ?_⟩)
  refine ensures_bind.2 (ensures_read.2 fun now' => ⟨.of_move (.network _), ?_⟩)
  split
  · exact h
  · rename_i hleft
    exact thrifty_seek h ((Counted.head now t d).cons fun _ => rfl) rfl nofun
      fun _ => UInt32.not_le.1 hleft

theorem thrifty_reconnect (h : d.session.policy = policy) (hroom : InBudget policy duty d) :
    reconnect.Thrifty policy duty t d := by
  refine thrifty_read fun now t => ?_
  rw [h]
  cases policy with
  | single => exact thrifty_reconnectSingle h hroom
  | replicated => exact thrifty_reconnectReplicated h

end Searches

section Recovery

theorem thrifty_searchSingle (failed : Option Handle) (h : d.session.policy = .single)
    (hroom : InBudget .single duty d) : (searchSingle op failed).Thrifty .single duty t d := by
  refine thrifty_read fun now t => ?_
  split
  · exact thrifty_moves moves_giveUp h
  · refine (thrifty_reconnectSingle h hroom).bind fun x t d h => ?_
    cases x with
    | ok _ => exact thrifty_moves (moves_relaunchOnCurrent op) h
    | error e => exact thrifty_moves moves_giveUp h

theorem thrifty_replaceSingle (failed : Option Handle) (h : d.session.policy = .single) :
    (replaceSingle op failed).Thrifty .single duty t d := by
  refine thrifty_read fun now t => ?_
  split
  · rename_i hwanted
    have hroom : InBudget .single duty d := by
      intro _ _
      simp only [Bool.and_eq_true, Outage.shouldReconnectSingle, decide_eq_true_eq] at hwanted
      exact hwanted.2.2
    refine ensures_when (P := fun _ d => d.session.policy = .single ∧ InBudget .single duty d)
      (fun _ => ensures_pause fun t' d' ho => ?_) (fun _ => ⟨h, hroom⟩)
      fun t d hd => thrifty_searchSingle failed hd.1 hd.2
    refine ho.preserves (P := fun _ d => d.session.policy = .single ∧ InBudget .single duty d)
      (fun _ _ _ _ hd hq => ?_) ⟨h, hroom⟩
    exact ⟨(SearchesNothing.toSameTerms hq).policy.trans hd.1, hd.2.searchesNothing hq⟩
  · exact thrifty_moves moves_giveUp h

theorem thrifty_primaryFailSingle (h : d.session.policy = .single) :
    (primaryFailSingle op).Thrifty .single duty t d := by
  refine thrifty_read fun now t => (thrifty_moves (moves_answering _) h).bind fun x t d h => ?_
  cases x with
  | some x =>
    refine (thrifty_moves (moves_primaryRecovered x) h).bind fun _ t d h => ?_
    exact thrifty_moves (moves_relaunch op x) h
  | none =>
    refine (thrifty_moves (steps_forM moves_failPrimary) h).bind fun _ t d h => ?_
    exact thrifty_replaceSingle _ h

theorem thrifty_primaryFailReplicated (probe : Bool) (h : d.session.policy = .replicated) :
    (primaryFailReplicated op probe).Thrifty .replicated duty t d := by
  have hreplace (failed : Option Handle) {t : List (Change Desk)} {d : Desk}
      (h : d.session.policy = .replicated) :
      (replacePrimary op failed).Thrifty .replicated duty t d := by
    refine thrifty_read fun now t => thrifty_read fun now t => ?_
    split
    · refine (thrifty_reconnectReplicated h).discard.bind fun _ t d h => ?_
      refine thrifty_read fun now t => ?_
      split
      · exact thrifty_moves (moves_fallBackToSecondary op failed) h
      · exact thrifty_moves (moves_relaunchOnCurrent op) h
    · exact thrifty_moves (moves_fallBackToSecondary op failed) h
  refine thrifty_read fun now t => (thrifty_moves (moves_answering _) h).bind fun x t d h => ?_
  cases x with
  | some x =>
    refine (thrifty_moves (moves_primaryRecovered x) h).bind fun _ t d h => ?_
    exact thrifty_moves (moves_relaunchOnCurrent op) h
  | none =>
    exact (thrifty_moves (steps_forM moves_failPrimary) h).bind fun _ t d h => hreplace _ h

theorem thrifty_replaceSecondary (h : d.session.policy = .replicated) :
    (replaceSecondary op).Thrifty .replicated duty t d := by
  refine thrifty_read fun now t => ?_
  split
  · refine (thrifty_reconnectReplicated h).discard.bind fun _ t d h => thrifty_read fun now t => ?_
    refine thrifty_moves (steps_when (moves_armRetry _) ?_) h
    split
    · trivial
    · exact moves_relaunchOnCurrent op
  · exact thrifty_moves moves_giveUp h

theorem thrifty_secondaryFailReplicated (h : d.session.policy = .replicated) :
    (secondaryFailReplicated op).Thrifty .replicated duty t d := by
  refine thrifty_read fun now t => (thrifty_moves (moves_answering _) h).bind fun x t d h => ?_
  cases x with
  | some x =>
    refine (thrifty_moves (moves_secondaryRecovered x) h).bind fun _ t d h => ?_
    exact thrifty_moves (moves_relaunchOnCurrent op) h
  | none =>
    refine (thrifty_moves (steps_forM moves_failSecondary) h).bind fun _ t d h => ?_
    refine thrifty_read fun now t => ?_
    split
    · exact thrifty_replaceSecondary h
    · split
      · exact thrifty_replaceSecondary h
      · rename_i p _
        refine (thrifty_moves (moves_onNetwork (Calls.keeps_ping p).grows) h).bind fun x t d h => ?_
        split
        · exact thrifty_moves ((moves_turnTo _ _ p).bind fun _ => moves_carryOn op p) h
        · exact thrifty_replaceSecondary h
        · refine (thrifty_moves (moves_failPrimary p) h).bind fun _ t d h => ?_
          exact thrifty_replaceSecondary h

theorem thrifty_handleFailover (failed : Handle) (h : d.session.policy = policy) :
    (handleFailover failed op).Thrifty policy duty t d := by
  have hrecover {t : List (Change Desk)} : (recover failed op).Thrifty policy duty t d := by
    refine thrifty_read fun now t => ?_
    rw [h]
    split
    · refine (thrifty_moves (moves_recordFailure failed op) h).bind fun _ t d h => ?_
      cases policy with
      | single => exact thrifty_primaryFailSingle h
      | replicated => exact thrifty_primaryFailReplicated true h
    · refine (thrifty_moves (moves_failSecondary failed) h).bind fun _ t d h => ?_
      cases policy with
      | single => exact h
      | replicated => exact thrifty_secondaryFailReplicated h
  refine thrifty_read fun now t => ?_
  split
  · exact h
  · split
    · exact hrecover
    · exact thrifty_moves (moves_relaunch op _) h

end Recovery

section Routing

theorem thrifty_awaitPrimary (h : d.session.policy = .replicated) :
    awaitPrimary.Thrifty .replicated duty t d := by
  have hgiveUp : (do
      armRetry retryPeriod
      return .error .noPrimaryAvailable :
        Act (Except Error Unit)).Steps (Move Deed.Plain fun _ => True) :=
    (moves_armRetry _).bind fun _ => trivial
  refine thrifty_read fun now t => ?_
  split
  · refine (thrifty_reconnectReplicated h).bind fun x t d h => ?_
    cases x with
    | ok _ => exact h
    | error e =>
      refine thrifty_read fun now t => ?_
      split
      · exact h
      · exact thrifty_moves hgiveUp h
  · exact thrifty_moves hgiveUp h

theorem thrifty_switchReadOnly (readOnly : Bool) (h : d.session.policy = policy) :
    (switchReadOnly readOnly).Thrifty policy duty t d := by
  refine thrifty_read fun now t => ?_
  rw [h]
  cases policy with
  | single => exact thrifty_moves (moves_switchSingle readOnly) h
  | replicated =>
    refine thrifty_read fun now t => ?_
    split
    · exact h
    · refine thrifty_read fun now t => ?_
      split
      · exact h
      · refine (thrifty_moves
          (moves_updateOutage (fun _ => .readOnly readOnly) fun _ => trivial) h).bind fun _ t d h => ?_
        split
        · exact thrifty_moves (moves_moveToSecondary _) h
        · unfold moveToPrimary
          split
          · exact h
          · rename_i p _ _ _
            refine thrifty_moves ((steps_onSome fun x => moves_sync x p).thenOk fun _ => ?_) h
            exact (steps_change fun _ _ => .turn _).bind fun _ => trivial
          · exact thrifty_awaitPrimary h

end Routing

section Background

theorem inBudget_of_due {now : Nat} (h : d.session.policy = policy)
    (hdue : d.shouldReconnect now = true) : InBudget policy duty d := by
  rintro rfl -
  simp only [Desk.shouldReconnect, h, Outage.shouldReconnectSingle, Bool.and_eq_true,
    decide_eq_true_eq] at hdue
  exact hdue.2

theorem thrifty_retryRound (h : d.session.policy = policy) :
    retryRound.Thrifty policy duty t d := by
  have hagain : retryAgain.Steps (Move Deed.Plain fun _ => True) := by
    refine moves_read.bind fun s => ?_
    split
    · exact moves_stopRetry
    · trivial
  refine thrifty_read fun now t => ?_
  split
  · exact thrifty_moves moves_stopRetry h
  · refine thrifty_read fun now t => ?_
    split
    · rename_i hdue
      refine (thrifty_reconnect h (inBudget_of_due h hdue)).bind fun x t d h => ?_
      cases x with
      | ok _ => exact thrifty_moves moves_stopRetry h
      | error e => exact thrifty_moves hagain h
    · exact thrifty_moves hagain h

theorem thrifty_reconnectIfDue (h : d.session.policy = policy) :
    reconnectIfDue.Thrifty policy duty t d := by
  refine thrifty_read fun now t => thrifty_read fun now t => ?_
  split
  · rename_i hdue
    exact (thrifty_reconnect h (inBudget_of_due h (Bool.and_eq_true_iff.1 hdue).2)).discard
  · exact h

theorem thrifty_pingRound (h : d.session.policy = .replicated) :
    pingRound.Thrifty .replicated duty t d := by
  refine thrifty_read fun now t => ?_
  split
  · exact h
  · refine Ensures.bind (P := fun _ _ d => d.session.policy = .replicated) ?_
      fun _ _ _ h => ensures_pure.2 h
    unfold checkPrimary
    split
    · rename_i p _ _
      refine (thrifty_moves (moves_onNetwork (Health.keeps_ofPrimaryWithin _ p).grows) h).bind
        fun r t d h => ?_
      split
      · exact h
      · refine (thrifty_moves (moves_failPrimary p) h).bind fun _ t d h => ?_
        exact (thrifty_primaryFailReplicated false h).discard
    · exact h

end Background

theorem thrifty_emptySlots (h : d.session.policy = policy) :
    emptySlots.Thrifty policy duty t d := by
  have hsteps : emptySlots.Steps fun d d' =>
      SameTerms d d' ∧ d'.session.journal = d.session.journal := by
    have hclose (x : Handle) : (closeIfOpen x).Steps fun d d' =>
        SameTerms d d' ∧ d'.session.journal = d.session.journal :=
      fun _ _ => ⟨⟨⟨rfl, rfl, fun _ => id⟩, rfl⟩, trivial⟩
    refine Steps.bind (steps_read fun d => ⟨⟨rfl, rfl, fun _ => id⟩, rfl⟩) fun s => ?_
    refine Steps.bind (steps_change fun _ d => ⟨⟨rfl, rfl, fun _ => id⟩, rfl⟩) fun _ => ?_
    exact (steps_forM hclose).bind fun _ => steps_forM hclose
  refine hsteps.ensures (F := fun _ d => d.session.policy = policy) ?_ ?_ h
  · exact fun _ _ _ _ h hq => (SameTerms.policy (SearchesNothing.toSameTerms hq)).trans h
  · exact fun _ _ _ _ h hs => ⟨.of_plain hs.1 (.inl hs.2), hs.1.policy.trans h⟩

theorem holds_connect {others : Desk → Desk → Prop} {F : Desk → Prop} {t t' : List (Change Desk)}
    {d d' : Desk} (hothers : ∀ d d', F d → others d d' → F d')
    (hmove : ∀ d d', F d → Move (fun _ => True) (· ≠ .query) d d' → F d')
    (hidle : touchPing.Steps fun d d' => F d → F d')
    (hplay : connect.Plays others t d (.ok ()) t' d') (h : F d) : F d' := by
  obtain ⟨now, t₁, d₁, hinit, htouch⟩ := opens_of_connect hplay
  obtain ⟨t₂, d₂, ho, hbody⟩ := plays_locked.1 hinit
  have hlocked : F d₂ := ho.preserves (P := fun _ => F) (fun _ _ _ _ h => hothers _ _ h) h
  have hfilled : F d₁ := by
    refine Ensures.plays (ρ := anything others) (Q := fun _ _ => F) ?_ hbody
    exact moves_fillSlots.ensures (F := fun _ => F) (fun _ _ _ _ h => hothers _ _ h)
      (fun _ _ _ _ h hm => ⟨trivial, hmove _ _ h hm⟩) hlocked
  have htouched : touchPing.Ensures (anything others) (fun _ _ => F) t₁ d₁ :=
    hidle.ensures (F := fun _ => F) (fun _ _ _ _ h => hothers _ _ h)
      (fun _ _ _ _ h hs => ⟨trivial, hs h⟩) hfilled
  exact htouched.plays htouch

theorem terms_connect {others : Desk → Desk → Prop} (hothers : ∀ d d', others d d' → SameSession d d')
    {topology : Topology} {options : Options} {registry : Registry} {n : Network}
    (hplay : connect.Plays others [] ⟨Session.unopened topology options registry, n⟩ (.ok ()) t d) :
    SameTerms ⟨Session.unopened topology options registry, n⟩ d := by
  refine holds_connect (F := SameTerms ⟨Session.unopened topology options registry, n⟩)
    (fun _ _ h ho => ?_) (fun _ _ h hm => h.trans hm.sameTerms) ?_ hplay (.refl _)
  · exact h.trans (hothers _ _ ho).searchesNothing.toSameTerms
  · exact (side_touchPing Network.suffices_keeps).mono fun _ _ hs h =>
      h.trans hs.searchesNothing.toSameTerms

theorem pings_connect {others : Desk → Desk → Prop} (hothers : ∀ d d', others d d' → SameSession d d')
    {topology : Topology} {options : Options} {registry : Registry} {n : Network}
    (hplay : connect.Plays others [] ⟨Session.unopened topology options registry, n⟩ (.ok ()) t d)
    (hs : d.session.policy = .single) : d.session.pingLoop.AtRest := by
  have hterms := terms_connect hothers hplay
  exact hterms.pings (hterms.policy.symm.trans hs) ⟨rfl, rfl⟩

end Act

/-- Whoever works for a session can do so while spending as the rules allow. -/
theorem admits_thrift (policy : Policy) :
    (thrift policy).Admits (fun _ _ => True) fun _ => True where
  lockFree d d' hd hq := by
    have hq : SearchesNothing d d' := hq
    exact ⟨hq.policy.trans hd.1, fun hp => hq.pings (hd.1.trans hp) (hd.2 hp)⟩
  own duty t e he hd := by
    have he : Spends duty t e := he
    exact ⟨he.terms.policy.trans hd.1, fun hp => he.terms.pings (hd.1.trans hp) (hd.2 hp)⟩
  order _ _ _ _ _ := trivial
  enough := ⟨fun _ => trivial, fun _ => trivial, fun h op _ =>
    (Network.suffices_keeps.invoke h op trivial).mono fun _ _ _ => trivial⟩
  side _ _ _ hs := hs.searchesNothing
  ended _ _ _ := ⟨⟨rfl, rfl, fun _ => id⟩, rfl, .inl rfl⟩
  shut _ _ := ⟨⟨rfl, rfl, fun _ => id⟩, rfl, .inl rfl⟩
  cancel now _ _ := ⟨⟨rfl, rfl, fun _ hr => hr.cancel now⟩, rfl, .inl rfl⟩
  failover _ failed _ _ _ hd _ :=
    (Act.thrifty_handleFailover failed hd.1).mono fun _ _ _ _ => trivial
  switch readOnly _ hd _ := (Act.thrifty_switchReadOnly readOnly hd.1).mono fun _ _ _ _ => trivial
  reconnect d hd _ := by
    have hroom : Act.InBudget policy (.request .reconnect) d := fun _ hu => by cases hu
    exact (Act.thrifty_reconnect hd.1 hroom).mono fun _ _ _ _ => trivial
  close _ hd _ := (Act.thrifty_emptySlots hd.1).mono fun _ _ _ _ => trivial
  background _ hd _ := (Act.thrifty_reconnectIfDue hd.1).mono fun _ _ _ _ => trivial
  retry _ _ _ hd _ := (Act.thrifty_retryRound hd.1).mono fun _ _ _ _ => trivial
  ping _ _ harmed d hd _ := by
    obtain ⟨d', hd', harmed⟩ := harmed
    cases policy with
    | single => exact (harmed (hd'.2 rfl)).elim
    | replicated => exact (Act.thrifty_pingRound hd.1).mono fun _ _ _ _ => trivial

end Failover

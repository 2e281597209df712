import Failover.Proofs.Office.ServingSlots
import Failover.Proofs.Session.Moves

/-!
A round of the retry loop. Where a reconnection is due, and some candidate serves every failed role,
it brings them all back; with a replica only if the connection that serves reports no transaction.
-/
namespace Failover
open Desk Routine

def Active.role : Active → Role
  | .primary => .primary
  | .secondary => .replica

namespace Network

instance : AllowsCalls SameServers :=
  ⟨.refl, .trans, fun c e n => (steady_meet e c n).toSameServers, sameServers_record,
    fun _ _ h n => sameServers_updateConnection h _ n⟩

instance : AllowsSettings SameServers := ⟨fun _ h n => sameServers_updateConnection h _ n⟩

end Network

namespace Desk

/-- Nothing happens to the servers, nor to what the serving connection reports. -/
structure Unmoved (d d' : Desk) : Prop where
  outsideLock : OutsideLock .everyone d d'
  steady : d.network.Steady d'.network
  inTransaction : d'.inTransaction = d.inTransaction

def Stands (d d' : Desk) : Prop := d.network.SameServers d'.network

theorem Unmoved.stands {n₀ : Network} {d d' : Desk} (h : Unmoved d d')
    (hn : n₀.SameServers d.network) : n₀.SameServers d'.network :=
  hn.trans h.steady.toSameServers

end Desk

namespace Session

/-- A reconnection is due: the budget is not spent, and with a replica the delay has passed since
some role failed. -/
def Due (now : Nat) (s : Session) : Prop :=
  (s.policy = .single → s.outage.attempts < s.options.maxReconnects) ∧
  (s.policy = .replicated → s.outage.attempts.toNat + 1 < s.options.retriesAllDown.toNat ∧
    (Outage.isDue s.options now s.outage.primarySince = true ∨
      Outage.isDue s.options now s.outage.secondarySince = true))

instance (now : Nat) (s : Session) : Decidable (s.Due now) := inferInstanceAs (Decidable (_ ∧ _))

def Replaceable (n : Network) (s : Session) : Prop :=
  ∀ a, s.failed a = true → ∃ h ∈ s.topology.hosts, n.role? s.topology.mode h = some a.role

instance (n : Network) (s : Session) : Decidable (s.Replaceable n) :=
  decidable_of_iff
    (∀ a ∈ [Active.primary, .secondary], s.failed a = true →
      ∃ h ∈ s.topology.hosts, n.role? s.topology.mode h = some a.role)
    ⟨fun h a => h a (by cases a <;> simp), fun h a _ => h a⟩

theorem Due.unspent {now : Nat} {s : Session} (h : s.Due now) (hp : s.policy = .replicated) :
    ¬s.options.retriesAllDown ≤ s.outage.attempts + 1 := by
  have hbudget := (h.2 hp).1
  have hbound := s.options.retriesAllDown.toNat_lt
  have hnext : (s.outage.attempts + 1).toNat = s.outage.attempts.toNat + 1 := by
    rw [UInt32.toNat_add, UInt32.toNat_one]
    exact Nat.mod_eq_of_lt (by omega)
  rw [UInt32.le_iff_toNat_le, hnext]
  omega

theorem Due.not_exhausted {now : Nat} {s : Session} (h : s.Due now) (hp : s.policy = .replicated) :
    s.exhausted = false := by
  have hbudget := (h.2 hp).1
  simp only [exhausted, hp, Outage.replicatedExhausted, decide_eq_false_iff_not,
    UInt32.lt_iff_toNat_lt]
  omega

theorem due_of_core {now : Nat} {s s' : Session} (hc : s'.core = s.core) : s'.Due now = s.Due now :=
  of_core (Due now) (fun _ => rfl) hc

theorem replaceable_of_core {n : Network} {s s' : Session} (hc : s'.core = s.core) :
    s'.Replaceable n = s.Replaceable n :=
  of_core (Replaceable n) (fun _ => rfl) hc

end Session

namespace Outage

theorem isDue_later {options : Options} {now now' : Nat} {since : Option Nat}
    (h : isDue options now since = true) (hlater : now ≤ now') :
    since.isSome = true ∧ isDue options now' since = true := by
  cases since with
  | none => cases h
  | some time =>
    simp only [isDue, Option.any_some, decide_eq_true_eq] at h ⊢
    exact ⟨rfl, by omega⟩

end Outage

namespace Desk

/-- Once a reconnection is due, the rule for seeking failed roles again only asks whether the
connection that serves a session with a replica reports a transaction. -/
theorem shouldReconnect_of_due {now now' : Nat} {d : Desk} (hdue : d.session.Due now)
    (hlater : now ≤ now') (hsingle : d.session.policy = .single → d.session.failed .primary = true) :
    d.shouldReconnect now' = true ↔ (d.session.policy = .replicated → d.inTransaction = false) := by
  unfold shouldReconnect
  cases hp : d.session.policy with
  | single =>
    have hfailed : d.session.outage.primaryFailed = true := hsingle hp
    simp [Outage.shouldReconnectSingle, hfailed, hdue.1 hp]
  | replicated =>
    obtain ⟨hbudget, hsince⟩ := hdue.2 hp
    have hallowed : d.session.outage.attempts ≤ d.session.options.retriesAllDown := by
      rw [UInt32.le_iff_toNat_le]
      omega
    simp only [Outage.shouldReconnectReplicated, Bool.and_eq_true, Bool.not_eq_true',
      decide_eq_true_eq, forall_const]
    refine ⟨fun h => h.1.1.2, fun h => ?_⟩
    rcases hsince with hsince | hsince
    · obtain ⟨hfailed, hsince⟩ := Outage.isDue_later hsince hlater
      simp [h, hallowed, Outage.anyFailed, Outage.primaryFailed, hfailed, hsince]
    · obtain ⟨hfailed, hsince⟩ := Outage.isDue_later hsince hlater
      simp [h, hallowed, Outage.anyFailed, Outage.secondaryFailed, hfailed, hsince]

end Desk

namespace Act
open Search
variable {s : Session} {n₀ : Network} {needs : Needs} {others : Desk → Desk → Prop}
  {t : List (Change Desk)} {d : Desk} {α : Type}

abbrev unmoved : Rules Desk := anything Unmoved

theorem stands_onNetwork {r : NetRoutine Unit Errand α} (h : r.Steps Network.SameServers) :
    (onNetwork r).Steps Stands := by
  refine Steps.embed (fun d n hs => ?_) h
  exact hs

theorem stands_change {f : Nat → Desk → Desk} (hf : ∀ now d, (f now d).network = d.network) :
    (change f : Act Unit).Steps Stands := by
  refine steps_change fun now d => ?_
  rw [Stands, hf]
  exact .refl _

theorem stands_found (role : Role) (h : Handle) : (found role h).Steps Stands := by
  refine Finds.found ⟨fun d => .refl _, fun a b => ?_, fun h f => ?_, fun h => ?_, fun h => ?_,
    fun _ _ _ => .refl _, fun _ _ _ => .refl _⟩ role h
  · exact ((stands_change fun _ _ => rfl).bind fun _ =>
      stands_onNetwork (Carryover.keeps_sync a b)).discard
  · exact stands_onNetwork (steps_change fun _ n => Network.sameServers_updateConnection h f n)
  · exact stands_onNetwork (Carryover.keeps_setReadOnly h true)
  · exact stands_onNetwork (steps_change fun _ n => Network.sameServers_updateConnection h _ n)

theorem probe_prober (s : Session) (needs : Needs) (host : Host) :
    probe (prober s) needs host = note (.connect host) >>= fun _ =>
      onNetwork (probe (Search.prober s.topology.mode s.registry) needs host) := by
  unfold probe
  simp only [prober, bind_assoc, onNetwork_bind]
  refine congrArg _ (funext fun _ => congrArg _ (funext fun x => ?_))
  cases x with
  | error e => rw [onNetwork_bind]; rfl
  | ok c =>
    dsimp only
    rw [onNetwork_bind]
    refine congrArg _ (funext fun y => ?_)
    cases y with
    | error e => rw [onNetwork_bind, onNetwork_bind]; rfl
    | ok role =>
      dsimp only
      split
      · rfl
      · rw [onNetwork_bind]; rfl

theorem truthful (s : Session) (hothers : ∀ d d', others d d' → d.network.Steady d'.network)
    (hcalm : n₀.Calm) :
    Truthful (anything others) s.topology.mode n₀ (fun d => n₀.SameServers d.network)
      (prober s) := by
  have hsearch : Truthful ⟨Network.Steady, fun _ _ => True⟩ s.topology.mode n₀ n₀.SameServers
      (Search.prober s.topology.mode s.registry : Prober Network Unit Errand) :=
    truthful_prober (fun _ _ _ _ => trivial) hcalm
  refine ⟨fun size t d hsize hn now => ⟨trivial, hn.trans (.of_eq rfl rfl), Nat.mod_lt _ hsize⟩,
    fun h needs t d hm hn => ?_, fun role c t d hn => ?_⟩
  · rw [probe_prober]
    refine ensures_bind.2 (ensures_change.2 fun now => ⟨trivial, ?_⟩)
    refine Ensures.mono (Ensures.embed (F := fun _ _ => True) (fun _ _ => rfl) ?_ ?_ ?_ trivial
      (hsearch.probe h needs _ _ hm hn)) fun x t d hq => hq.1
    · exact hothers
    · exact fun _ _ _ _ _ _ => trivial
    · exact fun _ _ _ _ _ _ => ⟨trivial, trivial⟩
  · refine (stands_found role c).ensures (F := fun _ d => n₀.SameServers d.network) ?_ ?_ hn
    · exact fun t d d' now hn ho => hn.trans (hothers d d' ho).toSameServers
    · exact fun t d d' now hn hs => ⟨trivial, hn.trans hs⟩

theorem restores_search (hothers : ∀ d d', others d d' → d.network.Steady d'.network)
    (hcalm : n₀.Calm) (hn : n₀.SameServers d.network)
    (hm : ∀ h ∈ d.session.topology.hosts, d.session.topology.mode.roleOf h.role = h.role) :
    (search needs).Ensures (anything others) (fun o _ _ =>
      o.needs = missing d.session.topology.mode n₀ d.session.topology.hosts needs) t d := by
  refine ensures_bind.2 (ensures_change.2 fun now => ⟨trivial, ?_⟩)
  refine ensures_bind.2 (ensures_change.2 fun now => ⟨trivial, ?_⟩)
  refine ensures_bind.2 (ensures_read.2 fun now => ⟨trivial, ?_⟩)
  refine ensures_bind.2 (ensures_read.2 fun now => ⟨trivial, ?_⟩)
  exact (truthful _ hothers hcalm).twoPass hm (hn.trans (Network.sameServers_updateBlacklist _ _ _))

theorem restores_seek (hcalm : n₀.Calm) (hn : n₀.SameServers d.network)
    (hm : ∀ h ∈ d.session.topology.hosts, d.session.topology.mode.roleOf h.role = h.role)
    (hcan : ∀ role, needs.wants role = true →
      ∃ h ∈ d.session.topology.hosts, n₀.role? d.session.topology.mode h = some role) :
    (seek needs).Ensures unmoved (fun x _ _ => x = .ok ()) t d := by
  unfold seek
  split
  · rfl
  · refine (restores_search (fun _ _ hu => hu.steady) hcalm hn hm).bind fun o t d ho => ?_
    rw [ensures_pure, Outcome.result, ho, missing_satisfied_iff.2 hcan]
    rfl

/-- A reconnection within its budget brings back every failed role that some candidate serves. -/
theorem restores_reconnect {now : Nat} (hcalm : n₀.Calm) (hn : n₀.SameServers d.network)
    (hm : ∀ h ∈ d.session.topology.hosts, d.session.topology.mode.roleOf h.role = h.role)
    (hdue : d.session.Due now) (hcan : d.session.Replaceable n₀)
    (hsingle : d.session.policy = .single → d.session.failed .primary = true) :
    reconnect.Ensures unmoved (fun x _ _ => x = .ok ()) t d := by
  refine ensures_bind.2 (ensures_read.2 fun now₁ => ⟨trivial, ?_⟩)
  split <;> rename_i hp
  · refine ensures_bind.2 (ensures_change.2 fun now₂ => ⟨trivial, ?_⟩)
    refine restores_seek hcalm hn hm fun role hw => ?_
    cases role with
    | primary => exact hcan .primary (hsingle hp)
    | replica => cases hw
    | unset => cases hw
  · refine ensures_bind.2 (ensures_change.2 fun now₂ => ⟨trivial, ?_⟩)
    refine ensures_bind.2 (ensures_read.2 fun now₃ => ⟨trivial, ?_⟩)
    split
    · rename_i hspent
      exact (hdue.unspent hp hspent).elim
    · refine restores_seek hcalm hn hm fun role hw => ?_
      cases role with
      | primary => exact hcan .primary hw
      | replica => exact hcan .secondary hw
      | unset => cases hw

section Round
variable {now : Nat}

/-- A reconnection that succeeds ends the loop, and leaves no role failed. -/
theorem restored_reconnect (h : Held .everyone s [] {} t d) (hcalm : n₀.Calm)
    (hn : n₀.SameServers d.network)
    (hm : ∀ h ∈ s.topology.hosts, s.topology.mode.roleOf h.role = h.role)
    (hdue : s.Due now) (hcan : s.Replaceable n₀)
    (hsingle : s.policy = .single → s.failed .primary = true) : (do
      match ← reconnect with
      | .ok _ => stopRetry
      | .error _ => retryAgain : Act Bool).Ensures unmoved
      (fun more _ d => more = false ∧ d.session.retryLoop.armed = false ∧
        (d.session.closed = false → ∀ a, d.session.failed a = false)) t d := by
  have hfound : reconnect.Ensures unmoved (fun x _ _ => x = .ok ()) t d := by
    have hdue' : d.session.Due now := by rwa [Session.due_of_core h.core]
    refine restores_reconnect hcalm hn ?_ hdue' ?_ ?_
    · rwa [Session.topology_of_core h.core]
    · rwa [Session.replaceable_of_core h.core]
    · rwa [Session.policy_of_core h.core, Session.failed_of_core h.core]
  -- That the search succeeds says what was found; that it keeps order says what became of it.
  have horderly := (orderly_reconnect h).amid fun _ _ (ho : Unmoved _ _) => ho.outsideLock
  refine (hfound.and horderly).bind fun x t d hd => ?_
  obtain ⟨rfl, s', hr, h⟩ := hd
  refine ensures_bind.2 (ensures_change.2 fun now =>
    ⟨trivial, rfl, Repeater.armed_cancel now _, fun hc a => ?_⟩)
  exact (congrFun (Session.failed_of_core h.core) a).trans (hr.none_failed h rfl hc a)

theorem plays_retryAgain {others : Desk → Desk → Prop} {more : Bool} {t' : List (Change Desk)}
    {d' : Desk} (hs : d.session.exhausted = false) (hplay : retryAgain.Plays others t d more t' d') :
    more = true ∧ d' = d := by
  obtain ⟨s, t₁, d₁, hread, hplay⟩ := plays_bind.1 hplay
  obtain ⟨now, rfl, rfl, rfl⟩ := plays_read.1 hread
  rw [if_neg (by simp [hs])] at hplay
  obtain ⟨rfl, -, rfl⟩ := plays_pure.1 hplay
  exact ⟨rfl, rfl⟩

/-- A round that comes when a reconnection is due brings everything back, save where the connection
that serves a session with a replica reports a transaction: there it does nothing. -/
theorem restored_retryRound {more : Bool} {t' : List (Change Desk)} {d' : Desk}
    (h : Held .everyone s [] {} t d) (hcalm : n₀.Calm)
    (hn : n₀.SameServers d.network)
    (hm : ∀ h ∈ s.topology.hosts, s.topology.mode.roleOf h.role = h.role)
    (hfailed : s.outage.anyFailed = true) (hdue : s.Due now) (hcan : s.Replaceable n₀)
    (hplay : retryRound.Plays Unmoved t d more t' d')
    (htime : ∀ es, t' = es ++ t → ∀ e ∈ es, now ≤ e.time) (hopen : d'.session.closed = false) :
    ((s.policy = .replicated → d.inTransaction = false) →
      more = false ∧ d'.session.retryLoop.armed = false ∧ ∀ a, d'.session.failed a = false) ∧
    (s.policy = .replicated → d.inTransaction = true →
      more = true ∧ d'.session.core = s.core) := by
  have hpolicy := Session.policy_of_core h.core
  obtain ⟨s₁, t₁, d₁, hread, hplay⟩ := plays_bind.1 hplay
  obtain ⟨now₁, rfl, rfl, rfl⟩ := plays_read.1 hread
  -- A round that finds the session closed ends with it closed.
  have hopen₁ : d₁.session.closed = false := by
    by_contra hc
    rw [if_pos (by simp [hc])] at hplay
    obtain ⟨_, t₂, d₂, hstop, hplay⟩ := plays_bind.1 hplay
    obtain ⟨now₂, rfl, rfl⟩ := plays_change.1 hstop
    obtain ⟨-, -, rfl⟩ := plays_pure.1 hplay
    exact hc hopen
  have hsingle (hp : s.policy = .single) : s.failed .primary = true := by
    have hgood := ((h.wellAt hopen₁ rfl).single hp).2.2
    simpa [Outage.anyFailed, hgood, Session.failed] using hfailed
  have hmarked : d₁.session.outage.anyFailed = true :=
    (Session.of_core (·.outage.anyFailed) (fun _ => rfl) h.core).trans hfailed
  rw [if_neg (by simp [hopen₁, hmarked])] at hplay
  obtain ⟨due, t₂, d₂, hread, hplay⟩ := plays_bind.1 hplay
  obtain ⟨now₂, rfl, rfl, rfl⟩ := plays_read.1 hread
  obtain ⟨es, rfl, -⟩ := hplay.log
  -- The rule is asked within the round, so no earlier than a reconnection was due.
  have hlater : now ≤ now₂ := by
    refine htime (es ++ [⟨true, now₂, d₂, d₂⟩, ⟨true, now₁, d₂, d₂⟩]) (by simp) ⟨true, now₂, d₂, d₂⟩ ?_
    simp
  have hrule : d₂.shouldReconnect now₂ = true ↔
      (s.policy = .replicated → d₂.inTransaction = false) := by
    have hdue' : d₂.session.Due now := by rwa [Session.due_of_core h.core]
    rw [← hpolicy]
    refine shouldReconnect_of_due hdue' hlater ?_
    rwa [hpolicy, Session.failed_of_core h.core]
  split at hplay
  · rename_i hdo
    have hquiet := hrule.1 hdo
    refine ⟨fun _ => ?_, fun hp hbusy => ?_⟩
    · have hread (now : Nat) {t : List (Change Desk)} (h : Held .everyone s [] {} t d₂) :
          Held .everyone s [] {} (⟨true, now, d₂, d₂⟩ :: t) d₂ :=
        h.pass (Harmless.refl d₂).outsideLock fun _ => rfl
      obtain ⟨hmore, harmed, hgood⟩ :=
        (restored_reconnect (hread now₂ (hread now₁ h)) hcalm hn hm hdue hcan hsingle).plays hplay
      exact ⟨hmore, harmed, hgood hopen⟩
    · rw [hquiet hp] at hbusy
      cases hbusy
  · rename_i hdont
    refine ⟨fun hquiet => (hdont (hrule.2 hquiet)).elim, fun hp _ => ?_⟩
    have hspent : d₂.session.exhausted = false :=
      (Session.exhausted_of_core h.core).trans (hdue.not_exhausted hp)
    obtain ⟨rfl, rfl⟩ := plays_retryAgain hspent hplay
    exact ⟨rfl, h.core⟩

end Round

theorem exists_retryTick (now : Nat) (t : List (Change Desk)) (hopen : d.session.closed = false) :
    ∃ more es d', retryTick.Plays Unmoved t d more (es ++ t) d' ∧ (∀ e ∈ es, now ≤ e.time) ∧
      d'.session.closed = false := by
  obtain ⟨es, hes, htime⟩ := alone_log now retryTick t d
  have hplay := plays_alone Unmoved now retryTick t d
  have hstays : (retryTick.alone now t d).2.2.session.closed = false := by
    obtain ⟨t₁, d₁, hamid, hbody⟩ :=
      plays_locked.1 (plays_alone (fun _ _ => False) now retryTick t d)
    have hopen₁ : d₁.session.closed = false :=
      hamid.preserves (P := fun _ d => d.session.closed = false) (fun _ _ _ _ _ ho => ho.elim) hopen
    have hsteps : retryRound.Steps (Move (fun _ => True) fun _ => True) := moves_retryRound
    refine Ensures.plays (ρ := anything fun _ _ => False) (hsteps.ensures
      (F := fun _ d => d.session.closed = false) (fun _ _ _ _ _ ho => ho.elim)
      (fun t d d' now hc hm => ⟨trivial, hm.closed.trans hc⟩) hopen₁) hbody
  rw [hes] at hplay
  exact ⟨_, es, _, hplay, fun e he => Nat.le_of_eq (htime e he).symm, hstays⟩

end Act

namespace Office
variable {ask : Request → Prop} {t₀ t : List (Change Desk)} {o₀ o : Office} {mode : Mode}
  {hosts : List Host} {now : Nat}

/-- When a reconnection is due, and every failed role is served by a candidate that can be reached,
a round of the retry loop comes to its end, and leaves no role failed and the loop stopped. Only
where the connection that serves a session with a replica reports a transaction, even one that ended
when its server went down, a round changes nothing and the loop goes on. -/
theorem restored_when_due (ho : o₀.Founded .everyone t₀)
    (h : Chronicle ask HandsIn (OutsideLock .everyone) t₀ o₀ t o) (hfree : o.Unlocked)
    (hopen : o.desk.session.closed = false) (hhosts : o.desk.session.topology = .ofHosts mode hosts)
    (hcalm : o.desk.network.Calm) (hfailed : o.desk.session.outage.anyFailed = true)
    (hdue : o.desk.session.Due now) (hcan : o.desk.session.Replaceable o.desk.network) :
    (∃ more es d', Act.retryTick.Plays Unmoved t o.desk more (es ++ t) d' ∧
      (∀ e ∈ es, now ≤ e.time) ∧ d'.session.closed = false) ∧
    ∀ more es d', Act.retryTick.Plays Unmoved t o.desk more (es ++ t) d' →
      (∀ e ∈ es, now ≤ e.time) → d'.session.closed = false →
      ((o.desk.session.policy = .replicated → o.desk.inTransaction = false) →
        more = false ∧ d'.session.retryLoop.armed = false ∧ ∀ a, d'.session.failed a = false) ∧
      (o.desk.session.policy = .replicated → o.desk.inTransaction = true →
        more = true ∧ d'.session.core = o.desk.session.core) := by
  refine ⟨Act.exists_retryTick now t hopen, fun more es d' hplay htime hopen' => ?_⟩
  obtain ⟨t₁, d₁, hamid, hbody⟩ := plays_locked.1 hplay
  have hheld := ho.held h hfree (fun _ _ hu => Unmoved.outsideLock hu) hamid
  have hstart : o.desk.network.SameServers d₁.network ∧ d₁.inTransaction = o.desk.inTransaction :=
    hamid.preserves (P := fun _ d₁ => o.desk.network.SameServers d₁.network ∧
      d₁.inTransaction = o.desk.inTransaction)
      (fun _ _ _ _ h hu => ⟨hu.stands h.1, hu.inTransaction.trans h.2⟩) ⟨.refl _, rfl⟩
  obtain ⟨hstands, hbusy⟩ := hstart
  rw [← hbusy]
  refine Act.restored_retryRound hheld hcalm hstands ?_ hfailed hdue hcan hbody ?_ hopen'
  · rw [hhosts]
    exact Search.normal_ofHosts mode hosts
  · intro es' hes e he
    obtain ⟨es₁, rfl, -⟩ := amid_log hamid
    rw [← List.append_assoc] at hes
    rw [List.append_cancel_right hes] at htime
    exact htime e (List.mem_append_left es₁ he)

def risen : Office := fallen.amid fun c => c.start (Cluster.numbered .primary 0).endpoint

/-- The primary is found, and nothing is left to look for. -/
theorem restored_when_due_primary : ∃ t₀ t o₀ o more es d', o₀.Founded .everyone t₀ ∧
    Chronicle (fun _ => True) HandsIn (OutsideLock .everyone) t₀ o₀ t o ∧ o.Unlocked ∧
    o.desk.session.failed .primary = true ∧ o.desk.session.Due 50000 ∧
    Act.retryTick.Plays Unmoved t o.desk more (es ++ t) d' ∧ more = false ∧
    d'.session.failed .primary = false := by
  have ho : (opened vacant).Founded .everyone (opening vacant) := founded_opened (by decide +kernel)
  have hrun : Chronicle (fun _ => True) HandsIn (OutsideLock .everyone) (opening vacant)
      (opened vacant) (⟨false, 0, fallen.desk, risen.desk⟩ :: falling) risen :=
    chronicle_fallen.amid (Option.isNone_iff_eq_none.1 (by decide +kernel)) _
  have hfree : risen.Unlocked := unlocked_of_rest (by decide +kernel) (by decide +kernel)
  have hdue : risen.desk.session.Due 50000 := by decide +kernel
  have hquiet : risen.desk.inTransaction = false := by decide +kernel
  have hhosts : risen.desk.session.topology =
      .ofHosts .replication ((Cluster.replicationHosts 1).map (·.1)) := by rfl
  obtain ⟨⟨more, es, d', hplay, htime, hopen⟩, hall⟩ := restored_when_due ho hrun hfree
    (by decide +kernel) hhosts (by decide +kernel) (by decide +kernel) hdue (by decide +kernel)
  obtain ⟨hmore, -, hgood⟩ := (hall more es d' hplay htime hopen).1 fun _ => hquiet
  exact ⟨_, _, _, _, more, es, d', ho, hrun, hfree, by decide +kernel, hdue, hplay, hmore,
    hgood .primary⟩

end Office

namespace Scenario

/-- Both servers go down in the middle of a transaction and come up again. When a reconnection is
due the connection that broke still reports the transaction, so a round of the retry loop does
nothing. -/
theorem dead_transaction_blocks :
    let blocked := Stage.after (Setting.stage { hosts := Cluster.replicationHosts 1 })
      [.connect "s" .replication none { secondsBeforeRetryMaster := 1 },
        .ask "s" (.execute (.query "BEGIN")), .stop (.index 0), .stop (.index 1),
        .ask "s" (.execute (.query "SELECT 1")), .start (.index 0), .start (.index 1),
        .advance 1250]
    let round := blocked.run (World.onSession 0 Act.retryTick)
    (blocked.machine.held = [] ∧ blocked.desk.session.closed = false ∧
      blocked.desk.session.outage.anyFailed = true ∧
      blocked.desk.session.Due blocked.machine.now ∧ blocked.desk.network.Calm ∧
      blocked.desk.session.Replaceable blocked.desk.network ∧
      blocked.desk.session.current = some 0 ∧
      (blocked.desk.network.ping 0).1 =
        .error (.connectivity "mock-0:3306" "connection reset by peer")) ∧
    round.1 = true ∧ round.2.desk.session.failed .primary = true ∧
      round.2.desk.session.failed .secondary = true ∧
      round.2.desk.session.retryLoop.armed = true := by
  decide +kernel

end Scenario
end Failover

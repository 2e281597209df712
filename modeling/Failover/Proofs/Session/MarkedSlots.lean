import Failover.Proofs.Session.ReadOnlyMarks

/-!
Whoever works for a session with one writer leaves it marked as it was asked: whoever searches for a
connection, marks it before it takes its place, and whoever switches, tells it first.
-/
namespace Failover
open Desk Routine

namespace Act
variable {foreign : Handle → Prop} {duty : Duty} {t : List (Change Desk)} {d : Desk} {s : Session}
  {c : Handle} {v : Bool} {op : Option Operation} {α : Type}

abbrev Marks (foreign : Handle → Prop) (duty : Duty) (r : Act α) :
    List (Change Desk) → Desk → Prop :=
  r.Ensures ((guard foreign).rules duty) fun _ _ d => d.Marked foreign

section Bystanding

theorem bystands_read {f : Nat → Desk → α} : (read f : Act α).Steps (Bystands foreign) :=
  steps_read .refl

theorem bystands_onNetwork {r : NetRoutine Unit Errand α} (h : r.Steps (Network.Spares foreign)) :
    (onNetwork r).Steps (Bystands foreign) :=
  have hput (d : Desk) (n : Network) (hn : d.network.Spares foreign n) :
      Bystands foreign d ⟨d.session, n⟩ := bystands_network hn
  Steps.embed hput h

theorem bystands_note {deed : Deed} (hd : ∀ h op, deed ≠ .invoke h op) :
    (note deed).Steps (Bystands foreign) := by
  refine steps_change fun _ d => ⟨rfl, rfl, rfl, rfl, fun _ => id, fun _ h hk => ?_,
    fun _ => List.mem_cons_of_mem _, .refl _⟩
  rcases hk with hp | ⟨op, hop⟩
  · exact .inl hp
  · exact .inr ⟨op, (List.mem_cons.1 hop).resolve_left fun he => hd h op he.symm⟩

theorem bystands_outage {f : Nat → Outage → Outage}
    (hf : ∀ now o, (f now o).readOnlyRequested = o.readOnlyRequested) :
    (updateOutage f).Steps (Bystands foreign) :=
  steps_change fun _ _ =>
    ⟨rfl, rfl, rfl, hf _ _, fun _ => id, fun _ _ => id, fun _ => id, .refl _⟩

theorem bystands_updateBlacklist (f : Nat → Endpoint → Blacklist → Blacklist) (h : Handle) :
    (updateBlacklist f h).Steps (Bystands foreign) :=
  steps_change fun _ _ => bystands_network (.of_eq (Network.connections_updateBlacklist ..))

theorem bystands_markPrimary : markPrimary.Steps (Bystands foreign) := by
  refine steps_transact fun _ _ =>
    ⟨rfl, rfl, rfl, ?_, fun _ => id, fun _ _ => id, fun _ => id, .refl _⟩
  simp only [Outage.markPrimary]
  split <;> rfl

theorem bystands_failPrimary (h : Handle) : (failPrimary h).Steps (Bystands foreign) := by
  refine bystands_markPrimary.bind fun fresh => ?_
  split
  · exact bystands_updateBlacklist _ h
  · trivial

theorem bystands_recordFailure (failed : Handle) (op : Option Operation) :
    (recordFailure failed op).Steps (Bystands foreign) := by
  refine bystands_markPrimary.bind fun fresh => ?_
  dsimp only
  split
  · refine steps_when (bystands_outage fun _ o => ?_) (bystands_updateBlacklist _ failed)
    simp only [Outage.countQuery]
    split <;> rfl
  · trivial

theorem bystands_primaryRecovered (h : Handle) :
    (primaryRecovered h).Steps (Bystands foreign) :=
  (bystands_outage (f := fun _ o => o.resetPrimary) fun _ _ => rfl).bind fun _ =>
    bystands_updateBlacklist _ h

theorem bystands_answering (slot : Option Handle) : (answering slot).Steps (Bystands foreign) := by
  cases slot with
  | none => trivial
  | some h =>
    refine (bystands_onNetwork (Calls.keeps_ping h)).bind fun x => ?_
    rcases x with e | (_ | _) <;> trivial

theorem bystands_armRetry (delay : Nat) : (armRetry delay).Steps (Bystands foreign) := by
  refine (steps_transact fun _ d => ?_).bind fun armed => steps_forM fun g => trivial
  dsimp only
  split
  · exact .refl d
  · exact ⟨rfl, rfl, rfl, rfl, fun _ => id, fun _ _ => id, fun _ => id, .refl _⟩

theorem bystands_giveUp : giveUp.Steps (Bystands foreign) :=
  (bystands_armRetry 0).bind fun _ => trivial

theorem bystands_stopRetry : stopRetry.Steps (Bystands foreign) :=
  (steps_change fun _ _ =>
    ⟨rfl, rfl, rfl, rfl, fun _ => id, fun _ _ => id, fun _ => id, .refl _⟩).bind fun _ => trivial

theorem bystands_retryAgain : retryAgain.Steps (Bystands foreign) := by
  refine bystands_read.bind fun s => ?_
  split
  · exact bystands_stopRetry
  · trivial

theorem bystands_trySync (a b : Handle) : (trySync a b).Steps (Bystands foreign) :=
  Steps.discard ((bystands_note (by simp)).bind fun _ =>
    bystands_onNetwork (Carryover.keeps_sync a b))

theorem ensures_bystanding {P : Desk → Prop} (hP : ∀ d d', P d → Bystands foreign d d' → P d')
    (hm : ∀ d, P d → d.Marked foreign) {r : Act α} (hr : r.Steps (Bystands foreign)) (h : P d) :
    r.Ensures ((guard foreign).rules duty) (fun _ _ d => P d) t d :=
  hr.ensures (F := fun _ d => P d) (fun _ _ _ _ hd hb => hP _ _ hd hb)
    (fun _ _ _ _ hd hb => ⟨Guards.of_bystands hb (hm _ hd), hP _ _ hd hb⟩) h

theorem marks_bystanding {r : Act α} (hr : r.Steps (Bystands foreign)) (h : d.Marked foreign) :
    r.Marks foreign duty t d :=
  ensures_bystanding (fun _ _ hd hb => hb.marked hd) (fun _ => id) hr h

theorem ensures_look {β : Type} {f : Nat → Desk → β} {k : β → Act α}
    {Q : α → List (Change Desk) → Desk → Prop} (hm : d.Marked foreign)
    (h : ∀ now t, (k (f now d)).Ensures ((guard foreign).rules duty) Q t d) :
    (read f >>= k).Ensures ((guard foreign).rules duty) Q t d :=
  ensures_bind.2 (ensures_read.2 fun now => ⟨Guards.of_bystands (.refl d) hm, h now _⟩)

end Bystanding

section Relaunching

def ServesOn (foreign : Handle → Prop) (h : Handle) (d : Desk) : Prop :=
  d.Marked foreign ∧ d.session.primary = some h

theorem ServesOn.bystands {h : Handle} {d' : Desk} (hs : ServesOn foreign h d)
    (hb : Bystands foreign d d') : ServesOn foreign h d' :=
  ⟨hb.marked hs.1, hb.primary.trans hs.2⟩

theorem marks_relaunch {h : Handle} (hop : ∀ x ∈ op, x.Neutral) (hs : ServesOn foreign h d) :
    (relaunch op h).Marks foreign duty t d := by
  unfold relaunch Carryover.relaunch
  cases hr : op.filter (·.isReplayable) with
  | none => exact hs.1
  | some x =>
    have hx := hop x (Option.filter_eq_some_iff.1 hr).1
    refine Ensures.bind (P := fun _ _ d => d.Marked foreign) ?_ fun r t d hd => ?_
    · have hcurrent : d.session.current = some h := by
        rw [Session.current, hs.1.active]
        exact hs.2
      have hside : Side (Network.Spares foreign) (fun _ => True) d
          ⟨{ d.session with journal := .invoke h x :: d.session.journal }, d.network⟩ :=
        .invoke h x trivial hcurrent
      refine ensures_bind.2 (ensures_change.2 fun now => ⟨.of_bystands hside.bystands hs.1, ?_⟩)
      exact marks_bystanding (bystands_onNetwork (Calls.allows_invoke h hx))
        (hside.bystands.marked hs.1)
    · cases r with
      | ok r => exact hd
      | error e =>
        dsimp only
        split <;> exact hd

theorem marks_relaunchOnCurrent (hop : ∀ x ∈ op, x.Neutral) (hd : d.Marked foreign) :
    (relaunchOnCurrent op).Marks foreign duty t d := by
  refine ensures_look hd fun now t => ?_
  cases hx : d.session.current with
  | none => exact hd
  | some h =>
    rw [Session.current, hd.active] at hx
    exact marks_relaunch hop ⟨hd, hx⟩

end Relaunching

section Searching

/-- The rule of calls of a session: what stands while others stand by stands until the call itself
is made. -/
theorem ensures_call {P : Desk → Prop} (hP : ∀ d d', P d → Bystands foreign d d' → P d')
    (hm : ∀ d, P d → d.Marked foreign) {call : Call} {host : Host}
    {real : Network → Except Error α × Network}
    {Q : Except Error α → List (Change Desk) → Desk → Prop}
    (htrouble : ∀ e t d, P d → Q (.error e) t d)
    (hreal : ∀ t d now, P d →
      Guards foreign duty t ⟨true, now, d, ⟨d.session, (real d.network).2⟩⟩ ∧
        Q (real d.network).1 (⟨true, now, d, ⟨d.session, (real d.network).2⟩⟩ :: t)
          ⟨d.session, (real d.network).2⟩)
    (h : P d) :
    (onNetwork (Calls.onHost call host none real)).Ensures ((guard foreign).rules duty) Q t d := by
  have hmeet : (onNetwork (transact fun _ n => n.meet host.endpoint call)).Steps
      (Bystands foreign) :=
    bystands_onNetwork (steps_transact fun _ => Network.AllowsCalls.meet call host.endpoint)
  have hpause (delay : Nat) : (onNetwork (pause delay)).Steps (Bystands foreign) :=
    bystands_onNetwork (steps_pause delay)
  unfold Calls.onHost
  rw [onNetwork_bind]
  refine (ensures_bystanding hP hm hmeet h).bind fun met t d h => ?_
  obtain ⟨delay, trouble⟩ := met
  dsimp only
  rw [onNetwork_bind]
  refine (ensures_bystanding hP hm (hpause delay) h).bind fun _ t d h => ?_
  split
  · exact htrouble _ t d h
  · exact htrouble _ t d h
  · exact htrouble _ t d h
  · rename_i hno
    cases hno
  · exact fun now => hreal t d now h

/-- A connection of its own that the session has not served on yet, and which of the settings it has
that count here. -/
structure Carried (foreign : Handle → Prop) (c : Handle) (readOnly : Bool) (d : Desk) : Prop extends
    Marked foreign d where
  opened : c < d.network.connections.size
  unknown : ¬d.Knows c
  flag : ¬foreign c → (d.network.connection c).readOnly = readOnly

theorem Carried.bystands {d' : Desk} (h : Carried foreign c v d) (hb : Bystands foreign d d') :
    Carried foreign c v d' := by
  refine ⟨hb.marked h.toMarked, Nat.lt_of_lt_of_le h.opened hb.spares.size, fun hk => ?_,
    fun hf => ?_⟩
  · exact h.unknown (hb.known h.active c hk)
  · rw [hb.spares.flags c h.opened hf]
    exact h.flag hf

theorem ensures_carried {r : Act α} (hr : r.Steps (Bystands foreign)) (h : Carried foreign c v d) :
    r.Ensures ((guard foreign).rules duty) (fun _ _ d => Carried foreign c v d) t d :=
  ensures_bystanding (fun _ _ => Carried.bystands) (fun _ h => h.toMarked) hr h

theorem marks_connect (host : Host) (h : d.Marked foreign) :
    (onNetwork (Calls.connect host)).Ensures ((guard foreign).rules duty)
      (fun x _ d => d.Marked foreign ∧ ∀ c, x = .ok c → Carried foreign c false d) t d := by
  refine ensures_call (fun _ _ hd hb => hb.marked hd) (fun _ => id) (fun e t d h => ⟨h, nofun⟩)
    (fun t d now h => ?_) h
  rcases d.network.connect_cases host with ⟨⟨e, he⟩, hsame⟩ | ⟨hok, c, hc, hpush⟩
  · have hb : Bystands foreign d ⟨d.session, (d.network.connect host).2⟩ :=
      bystands_network (.of_eq hsame)
    rw [he]
    exact ⟨.of_bystands hb h, hb.marked h, nofun⟩
  · have hb : Bystands foreign d ⟨d.session, (d.network.connect host).2⟩ :=
      bystands_network (Network.spares_push hpush)
    rw [hok]
    refine ⟨.of_bystands hb h, hb.marked h, fun x hx => ?_⟩
    cases hx
    refine ⟨hb.marked h, ?_, fun hk => ?_, fun _ => ?_⟩
    · rw [hpush]
      simp
    · exact Nat.lt_irrefl _ (h.known _ hk)
    · rw [Network.connection, hpush]
      simpa using hc

theorem Carried.tell {d' : Desk} {readOnly : Bool} (duty : Duty) (t : List (Change Desk))
    (now : Nat) (h : Carried foreign c v d)
    (hb : Bystands (fun x => foreign x ∨ x = c) d d')
    (hf : ¬foreign c → (d'.network.connection c).readOnly = readOnly) :
    Guards foreign duty t ⟨true, now, d, d'⟩ ∧ Carried foreign c readOnly d' := by
  have hunknown : ¬d'.Knows c := fun hk => h.unknown (hb.known h.active c hk)
  have hmarked : d'.Marked foreign :=
    (hb.marked (h.toMarked.mono fun _ => .inl)).of_unknown hunknown
  exact ⟨⟨hb.lone, hb.journal, .inl hb.asked, fun _ _ _ => hmarked.guarded,
    fun _ => .inl h.toMarked⟩,
    hmarked, Nat.lt_of_lt_of_le h.opened hb.spares.size, hunknown, hf⟩

/-- The session is marked but for a connection that it has given up and still has to close. -/
structure Leaving (foreign : Handle → Prop) (old : Option Handle) (d : Desk) : Prop extends
    Lone d where
  guarded : d.Guarded foreign
  serving : ∀ h, d.session.primary = some h → ¬foreign h →
    (d.network.connection h).readOnly = d.session.outage.readOnlyRequested
  left : ∀ h, d.Knows h → d.session.primary ≠ some h → ¬foreign h →
    old = some h ∨ (d.network.connection h).closed = true

theorem Leaving.marked (h : Leaving foreign none d) : d.Marked foreign :=
  ⟨h.toLone, h.serving, fun x hx hne hf => (h.left x hx hne hf).resolve_left nofun⟩

theorem marks_leave {old : Handle} {f : Network → Network} (h : Leaving foreign (some old) d)
    (hf : ∀ n : Network, n.Spares foreign (f n))
    (hclosed : ∀ n : Network, old < n.connections.size → ((f n).connection old).closed = true)
    (hready : duty = .request (.switchReadOnly false) → ∃ x t', t = x :: t' ∧ x.own = true) :
    (onNetwork (Routine.change fun _ n => f n)).Marks foreign duty t d := by
  have hb : Bystands foreign d ⟨d.session, f d.network⟩ := bystands_network (hf d.network)
  refine ensures_change.2 fun now =>
    ⟨⟨hb.lone, fun _ => id, .inl rfl, fun _ => hb.guarded, fun hd => .inr (hready hd)⟩, ?_⟩
  refine ⟨hb.lone h.toLone, fun x hx hno => ?_, fun x hx hne hno => ?_⟩
  · exact (hb.spares.flags x (h.known x (.inl hx)) hno).trans (h.serving x hx hno)
  · have hsize := h.known x hx
    rcases h.left x hx hne hno with hx | hx
    · cases hx
      exact hclosed d.network hsize
    · exact hb.spares.closed x hsize hno hx

/-- The connection takes the place of the one that served. -/
theorem Carried.leaving (h : Carried foreign c s.outage.readOnlyRequested d)
    (hp : d.session.primary = s.primary)
    (hr : d.session.outage.readOnlyRequested = s.outage.readOnlyRequested) :
    Leaving foreign s.primary ⟨{ d.session with
      primary := some c, active := .primary, outage := d.session.outage.resetPrimary },
      d.network⟩ := by
  have hserving (hf : ¬foreign c) :
      (d.network.connection c).readOnly = d.session.outage.readOnlyRequested :=
    (h.flag hf).trans hr.symm
  refine ⟨⟨h.policy, rfl, h.pings, fun x hx => ?_⟩, fun hasked x hx hf => ?_, fun x hx hf => ?_,
    fun x hx hne hf => ?_⟩
  · rcases hx with hx | hop
    · cases hx
      exact h.opened
    · exact h.known x (.inr hop)
  · rcases hx with hx | hop
    · cases hx
      exact .inr ((hserving hf).trans hasked)
    · exact h.toMarked.guarded hasked x (.inr hop) hf
  · cases hx
    exact hserving hf
  · rcases hx with hx | hop
    · exact (hne hx).elim
    · by_cases hx : d.session.primary = some x
      · exact .inl (hp.symm.trans hx)
      · exact .inr (h.left x (.inr hop) hx hf)

theorem marks_takeOver (h : Carried foreign c s.outage.readOnlyRequested d)
    (hp : d.session.primary = s.primary)
    (hr : d.session.outage.readOnlyRequested = s.outage.readOnlyRequested) : (do
      update fun s =>
        { s with primary := some c, active := .primary, outage := s.outage.resetPrimary }
      retire s.primary c : Act Unit).Marks foreign duty t d := by
  have hleaving := h.leaving hp hr
  refine ensures_bind.2 (ensures_change.2 fun now => ⟨⟨fun _ => hleaving.toLone, fun _ => id,
    .inl rfl, fun _ _ _ => hleaving.guarded, fun _ => .inl h.toMarked⟩, ?_⟩)
  cases hold : s.primary with
  | none =>
    rw [hold] at hleaving
    exact hleaving.marked
  | some old =>
    have hne : old ≠ c := by
      rintro rfl
      exact h.unknown (.inl (hp.trans hold))
    have hretire : retire (some old) c = onNetwork (Calls.close old) := by
      simp [retire, Option.filter, hne]
    rw [hold] at hleaving
    rw [hretire]
    exact marks_leave hleaving (fun n => n.spares_close old)
      (fun n hx => congrArg Connection.closed (Network.connection_updateConnection_self _ hx))
      fun _ => ⟨_, _, rfl, rfl⟩

/-- A connection on its way to the place of another, whose settings it gets and none but those. -/
structure Coming (foreign : Handle → Prop) (s : Session) (c : Handle) (readOnly : Bool) (d : Desk) :
    Prop extends Carried foreign c readOnly d where
  primary : d.session.primary = s.primary
  asked : d.session.outage.readOnlyRequested = s.outage.readOnlyRequested

theorem Coming.bystands {d' : Desk} (h : Coming foreign s c v d) (hb : Bystands foreign d d') :
    Coming foreign s c v d' :=
  ⟨h.toCarried.bystands hb, hb.primary.trans h.primary, hb.asked.trans h.asked⟩

theorem ensures_coming {r : Act α} (hr : r.Steps (Bystands foreign)) (h : Coming foreign s c v d) :
    r.Ensures ((guard foreign).rules duty) (fun _ _ d => Coming foreign s c v d) t d :=
  ensures_bystanding (fun _ _ => Coming.bystands) (fun _ h => h.toMarked) hr h

theorem ensures_forbid (h : Coming foreign s c v d) :
    (onNetwork (Routine.change fun _ n =>
      n.updateConnection c fun c => { c with readOnly := true })).Ensures
        ((guard foreign).rules duty) (fun _ _ d => Coming foreign s c true d) t d := by
  have hset : Bystands (fun x => foreign x ∨ x = c) d
      ⟨d.session, d.network.updateConnection c fun c => { c with readOnly := true }⟩ := by
    refine bystands_network (Network.spares_updateConnection (fun _ hc => ?_) (fun hno => ?_) _)
    · exact hc
    · exact (hno (.inr rfl)).elim
  have hflag : ((d.network.updateConnection c fun c => { c with readOnly := true }).connection
      c).readOnly = true :=
    congrArg Connection.readOnly (Network.connection_updateConnection_self _ h.opened)
  refine ensures_change.2 fun now => ?_
  obtain ⟨hguards, hcarried⟩ := h.toCarried.tell duty t now hset fun _ => hflag
  exact ⟨hguards, hcarried, h.primary, h.asked⟩

theorem ensures_forbidden (h : Coming foreign s c true d) :
    (onNetwork (Carryover.setReadOnly c true)).Ensures ((guard foreign).rules duty)
      (fun _ _ d => Coming foreign s c true d) t d := by
  have hsteps : (onNetwork (Carryover.setReadOnly c true)).Steps fun d d' =>
      Bystands (fun x => foreign x ∨ x = c) d d' ∧
        ((d.network.connection c).readOnly = true → (d'.network.connection c).readOnly = true) :=
    Steps.embed (fun _ _ hs => ⟨bystands_network hs.1, hs.2⟩)
      (Carryover.raises_setReadOnly foreign c)
  refine hsteps.ensures (F := fun _ d => Coming foreign s c true d)
    (fun _ _ _ _ h hb => h.bystands hb) (fun t d d' now h hs => ?_) h
  obtain ⟨hguards, hcarried⟩ := h.toCarried.tell duty t now hs.1 fun hf => hs.2 (h.flag hf)
  exact ⟨hguards, hcarried, hs.1.primary.trans h.primary, hs.1.asked.trans h.asked⟩

theorem marks_foundPrimarySingle (h : Carried foreign c false d) :
    (foundPrimarySingle c).Marks foreign duty t d := by
  refine ensures_look h.toMarked fun now t => ?_
  have hcoming : Coming foreign d.session c false d := ⟨h, rfl, rfl⟩
  refine (ensures_coming (steps_forM fun old => bystands_trySync old c) hcoming).bind
    fun _ t d' h => ?_
  dsimp only
  split
  · rename_i hasked
    refine (ensures_forbid h).bind fun _ t d' h => ?_
    refine (ensures_forbidden h).discard.bind fun _ t d' h => ?_
    refine marks_takeOver ?_ h.primary h.asked
    rw [hasked]
    exact h.toCarried
  · rename_i hasked
    refine marks_takeOver ?_ h.primary h.asked
    rw [Bool.not_eq_true] at hasked
    rw [hasked]
    exact h.toCarried

theorem marks_close (h : d.Marked foreign) (x : Handle) :
    (onNetwork (Calls.close x)).Marks foreign duty t d :=
  marks_bystanding (bystands_onNetwork (steps_change fun _ n => n.spares_close x)) h

/-- Whoever serves whatever, the session is marked once it has been handed over. -/
theorem marks_found (role : Role) (h : Carried foreign c false d) :
    (found role c).Marks foreign duty t d := by
  have hreplica : (foundReplica c).Marks foreign duty t d := by
    refine ensures_look h.toMarked fun now t => ?_
    rw [h.policy]
    exact marks_close h.toMarked c
  cases role with
  | primary =>
    refine ensures_look h.toMarked fun now t => ?_
    rw [h.policy]
    exact marks_foundPrimarySingle h
  | replica => exact hreplica
  | unset => exact hreplica

theorem discoversRoles_of_single {s : Session} (h : s.policy = .single) :
    s.topology.mode.discoversRoles = false := by
  cases hm : s.topology.mode with
  | aurora => simp [Session.policy, Mode.policy, Mode.hasReplicas, hm] at h
  | _ => rfl

theorem marks_probe (needs : Needs) (host : Host) (hs : s.policy = .single) (h : d.Marked foreign) :
    (Search.probe (prober s) needs host).Ensures ((guard foreign).rules duty)
      (Search.Probed (fun _ d => d.Marked foreign) fun role c =>
        (found role c).Marks foreign duty) t d := by
  have hexclude {t : List (Change Desk)} {d : Desk} (h : d.Marked foreign) :
      Marks foreign duty ((prober s).exclude host) t d :=
    marks_bystanding (bystands_onNetwork (steps_change fun _ _ =>
      .of_eq (Network.connections_updateBlacklist ..))) h
  have hconnect : ((prober s).connect host).Ensures ((guard foreign).rules duty)
      (fun x _ d => d.Marked foreign ∧ ∀ c, x = .ok c → Carried foreign c false d) t d :=
    (marks_bystanding (bystands_note (by simp)) h).bind fun _ _ _ h => marks_connect host h
  refine hconnect.bind fun x t d hd => ?_
  obtain ⟨h, hnew⟩ := hd
  cases x with
  | error e => exact (hexclude h).bind fun _ _ _ h => h
  | ok c =>
    have hrole : ((prober s).role c).Steps (Bystands foreign) := by
      change (onNetwork (Calls.role s.topology.mode.discoversRoles c)).Steps (Bystands foreign)
      rw [discoversRoles_of_single hs]
      exact bystands_onNetwork (Calls.allows_role c)
    refine (ensures_carried hrole (hnew c rfl)).bind fun x t d h => ?_
    cases x with
    | error e =>
      exact (hexclude h.toMarked).bind fun _ _ _ h => (marks_close h c).bind fun _ _ _ h => h
    | ok role =>
      dsimp only
      split
      · exact marks_found role h
      · exact (marks_close h.toMarked c).bind fun _ _ _ h => h

theorem marks_search (needs : Needs) (h : d.Marked foreign) :
    (search needs).Marks foreign duty t d := by
  have hprune : (Routine.change fun now d =>
      { d with
        network := d.network.updateBlacklist d.session.registry
          (·.prune now (millis d.session.options.blacklistTimeoutSec)) } : Act Unit).Steps
        (Bystands foreign) :=
    steps_change fun _ _ => bystands_network (.of_eq (Network.connections_updateBlacklist ..))
  refine (marks_bystanding (bystands_note (by simp)) h).bind fun _ t d h => ?_
  refine (marks_bystanding hprune h).bind fun _ t d h => ?_
  refine ensures_look h fun now t => ?_
  have hs := h.policy
  refine (marks_bystanding bystands_read h).bind fun b t d h => ?_
  refine Search.ensures_twoPass (P := fun _ (d : Desk) => d.Marked foreign) (fun size t d h => ?_)
    (fun needs host t d h => marks_probe needs host hs h) b _ needs h
  exact marks_bystanding (bystands_onNetwork (steps_transact fun _ _ => .of_eq rfl)) h

theorem marks_seek (needs : Needs) (h : d.Marked foreign) :
    (seek needs).Marks foreign duty t d := by
  unfold seek
  split
  · exact h
  · exact (marks_search needs h).bind fun _ _ _ h => h

theorem marks_reconnectSingle (h : d.Marked foreign) :
    reconnectSingle.Marks foreign duty t d :=
  (marks_bystanding (bystands_outage (f := Outage.recordAttempt) fun _ _ => rfl) h).bind
    fun _ _ _ h => marks_seek _ h

theorem marks_reconnect (h : d.Marked foreign) : reconnect.Marks foreign duty t d := by
  refine ensures_look h fun now t => ?_
  rw [h.policy]
  exact marks_reconnectSingle h

end Searching

section Recovery

theorem marks_searchSingle (failed : Option Handle) (hop : ∀ x ∈ op, x.Neutral)
    (h : d.Marked foreign) : (searchSingle op failed).Marks foreign duty t d := by
  refine ensures_look h fun now t => ?_
  split
  · exact marks_bystanding bystands_giveUp h
  · refine (marks_reconnectSingle h).bind fun x t d h => ?_
    cases x with
    | ok _ => exact marks_relaunchOnCurrent hop h
    | error e => exact marks_bystanding bystands_giveUp h

theorem marks_replaceSingle (failed : Option Handle) (hop : ∀ x ∈ op, x.Neutral)
    (h : d.Marked foreign) : (replaceSingle op failed).Marks foreign duty t d := by
  refine ensures_look h fun now t => ?_
  split
  · refine ensures_when (P := fun _ (d : Desk) => d.Marked foreign) (fun _ => ?_) (fun _ => h)
      fun t d h => marks_searchSingle failed hop h
    exact marks_bystanding (steps_pause _) h
  · exact marks_bystanding bystands_giveUp h

theorem marks_primaryFailSingle (hop : ∀ x ∈ op, x.Neutral) (h : d.Marked foreign) :
    (primaryFailSingle op).Marks foreign duty t d := by
  refine ensures_look h fun now t => ?_
  have hsame (d' d'' : Desk)
      (hd : d'.Marked foreign ∧ d'.session.primary = d.session.primary)
      (hb : Bystands foreign d' d'') :
      d''.Marked foreign ∧ d''.session.primary = d.session.primary :=
    ⟨hb.marked hd.1, hb.primary.trans hd.2⟩
  refine ((ensures_bystanding hsame (fun _ hd => hd.1) (bystands_answering _) ⟨h, rfl⟩).answers
    (answers_answering _)).bind fun x t d' hd => ?_
  obtain ⟨hx, h, hp⟩ := hd
  cases x with
  | some x =>
    have hs : ServesOn foreign x d' := ⟨h, hp.trans (hx x rfl)⟩
    refine (ensures_bystanding (fun _ _ => ServesOn.bystands) (fun _ hs => hs.1)
      (bystands_primaryRecovered x) hs).bind fun _ t d hs => ?_
    exact marks_relaunch hop hs
  | none =>
    refine (marks_bystanding (steps_forM bystands_failPrimary) h).bind fun _ t d h => ?_
    exact marks_replaceSingle _ hop h

theorem marks_handleFailover (failed : Handle) (hop : ∀ x ∈ op, x.Neutral)
    (h : d.Marked foreign) : (handleFailover failed op).Marks foreign duty t d := by
  have hrecover {t : List (Change Desk)} : (recover failed op).Marks foreign duty t d := by
    refine ensures_look h fun now t => ?_
    rw [h.active, h.policy]
    refine (marks_bystanding (bystands_recordFailure failed op) h).bind fun _ t d h => ?_
    exact marks_primaryFailSingle hop h
  refine ensures_look h fun now t => ?_
  cases hx : d.session.current with
  | none => exact h
  | some x =>
    rw [Session.current, h.active] at hx
    dsimp only
    split
    · exact hrecover
    · exact marks_relaunch hop ⟨h, hx⟩

end Recovery

section Background

theorem marks_retryRound (h : d.Marked foreign) : retryRound.Marks foreign duty t d := by
  refine ensures_look h fun now t => ?_
  split
  · exact marks_bystanding bystands_stopRetry h
  · refine ensures_look h fun now t => ?_
    split
    · refine (marks_reconnect h).bind fun x t d h => ?_
      cases x with
      | ok _ => exact marks_bystanding bystands_stopRetry h
      | error e => exact marks_bystanding bystands_retryAgain h
    · exact marks_bystanding bystands_retryAgain h

theorem marks_reconnectIfDue (h : d.Marked foreign) : reconnectIfDue.Marks foreign duty t d := by
  refine ensures_look h fun now t => ensures_look h fun now t => ?_
  split
  · exact (marks_reconnect h).discard
  · exact h

end Background

end Act
end Failover

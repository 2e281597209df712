import Failover.Proofs.Office.ServingSlots
import Failover.Proofs.Session.Attempts
import Failover.Proofs.Session.ReadOnlySwitch

/-!
A session with one writer that was asked to be read-only writes nothing, whichever connection it may
come to serve from, until it is asked to write again.
-/
namespace Failover
open Desk Routine

namespace Network

/-- No write is accepted on this connection. -/
def Refuses (h : Handle) (n : Network) : Prop :=
  ∀ sql, isWrite (Text.trimmed sql) = true → ∃ e, (n.execute h sql).1 = .error e

theorem refuses_of_connection {n : Network} {h : Handle}
    (hn : (n.connection h).closed = true ∨ (n.connection h).readOnly = true) : n.Refuses h := by
  intro sql hw
  unfold execute
  split
  · exact ⟨_, rfl⟩
  · rename_i s hs
    have hopen : (n.connection h).closed = false := by
      cases hc : (n.connection h).closed with
      | true => simp [server, hc] at hs
      | false => rfl
    have hreadOnly : (n.connection h).readOnly = true := hn.resolve_left (by simp [hopen])
    simp only [hw, hreadOnly, Bool.true_or, Bool.and_self, if_true]
    exact ⟨_, rfl⟩

end Network

namespace Desk
variable {foreign : Handle → Prop} {d d' : Desk}

/-- Others leave the session alone, and its connections too. -/
structure Respects (foreign : Handle → Prop) (d d' : Desk) : Prop where
  session : d'.session = d.session
  spares : d.network.Spares foreign d'.network

theorem Respects.bystands (h : Respects foreign d d') : Bystands foreign d d' := by
  obtain ⟨s, n⟩ := d
  obtain ⟨s', n'⟩ := d'
  obtain ⟨rfl, hspares⟩ := h
  exact bystands_network hspares

theorem Respects.outsideLock (h : Respects foreign d d') : OutsideLock .everyone d d' := by
  refine ⟨?_, fun hc => ?_, fun _ _ ha => ?_, h.spares.size, fun hno => (hno trivial).elim⟩
  · rw [h.session]
  · rw [h.session, hc]
  · rw [h.session, ha]

end Desk

namespace Act
variable {foreign : Handle → Prop} {topology : Topology} {options : Options} {registry : Registry}
  {n : Network} {t : List (Change Desk)} {d : Desk}

theorem marked_unopened (hs : (Session.unopened topology options registry).policy = .single) :
    Marked foreign ⟨Session.unopened topology options registry, n⟩ := by
  have hunknown (x : Handle) :
      ¬Knows ⟨Session.unopened topology options registry, n⟩ x := by
    rintro (hx | ⟨op, hop⟩)
    · cases hx
    · cases hop
  exact ⟨⟨hs, rfl, ⟨rfl, rfl⟩, fun x hx => (hunknown x hx).elim⟩, nofun,
    fun x hx => (hunknown x hx).elim⟩

/-- The first search of a session with one writer finds it, or the session does not open. -/
theorem marked_initialConnect
    (hs : (Session.unopened topology options registry).policy = .single)
    {t₀ : List (Change Desk)} {d₀ : Desk}
    (h : Held .everyone (Session.unopened topology options registry) [] { unready := true } t₀ d₀)
    (hd : d₀.Marked foreign)
    (hplay : initialConnect.Plays (Respects foreign) t₀ d₀ (.ok ()) t d) : d.Marked foreign := by
  obtain ⟨t₁, d₁, ho, hbody⟩ := plays_locked.1 hplay
  obtain ⟨h, hd⟩ : Held .everyone (Session.unopened topology options registry) []
      { unready := true } t₁ d₁ ∧ d₁.Marked foreign :=
    ho.preserves (P := fun t d => Held .everyone (Session.unopened topology options registry) []
      { unready := true } t d ∧ d.Marked foreign)
      (fun _ _ _ _ h ha => ⟨h.1.pass ha.outsideLock (by simp), ha.bystands.marked h.2⟩) ⟨h, hd⟩
  obtain ⟨s, t₂, d₂, hread, hbody⟩ := plays_bind.1 hbody
  obtain ⟨now, rfl, rfl, rfl⟩ := plays_read.1 hread
  obtain ⟨o, t₃, d₃, hsearch, hbody⟩ := plays_bind.1 hbody
  have hsearched (needs : Needs) (t : List (Change Desk)) :
      (search needs).Marks foreign (.request .reconnect) t d₂ := marks_search needs hd
  have hmarked : d₃.Marked foreign :=
    ((hsearched _ _).amid fun _ _ ha => ha.bystands).plays hsearch
  have hfilling := filling_unopened topology options registry
  rw [hs, ← hd.policy] at hfilling
  obtain ⟨s', hfound, h⟩ := ((orderly_search Session.kept_filling (h.look now) hfilling).amid
    fun _ _ ha => ha.outsideLock).plays hsearch
  unfold Search.Outcome.result at hbody
  cases hn : o.needs.satisfied with
  | true =>
    rw [hn] at hbody
    obtain ⟨-, rfl, rfl⟩ := plays_pure.1 hbody
    exact hmarked
  | false =>
    rw [hn] at hbody
    obtain ⟨s, t₄, d₄, hlast, hbody⟩ := plays_bind.1 hbody
    obtain ⟨now', rfl, rfl, rfl⟩ := plays_read.1 hlast
    have hvacant := hfound.vacant ((Session.policy_of_core h.core).symm.trans hmarked.policy) hn
    have hnone : d₄.session.primary.isNone && d₄.session.secondary.isNone := by
      rw [Session.primary_of_core h.core, Session.secondary_of_core h.core, hvacant.1, hvacant.2]
      rfl
    rw [if_pos hnone] at hbody
    cases (plays_pure.1 hbody).1

theorem marked_connect (hs : (Session.unopened topology options registry).policy = .single)
    (hplay : connect.Plays (Respects foreign) [] ⟨Session.unopened topology options registry, n⟩
      (.ok ()) t d) : d.Marked foreign := by
  obtain ⟨now, t₁, d₁, hinit, htouch⟩ := opens_of_connect hplay
  have hnew : Held .everyone (Session.unopened topology options registry) []
      { unready := true } [] _ := .of_order (order_unopened topology options registry n)
  have hmarked := marked_initialConnect hs (hnew.look now) (marked_unopened hs) hinit
  have htouched : touchPing.Steps (Bystands foreign) :=
    (side_touchPing ⟨.refl, fun _ => .of_eq rfl, fun h _ hop => Calls.allows_invoke h hop⟩).mono
      fun _ _ hs => hs.bystands
  have hmarks : touchPing.Marks foreign (.request .reconnect) t₁ d₁ :=
    marks_bystanding htouched hmarked
  exact (hmarks.amid fun _ _ ha => ha.bystands).plays htouch

end Act

theorem Routine.Minds.marked {α : Type} {foreign : Handle → Prop} {Q : α → Desk → Prop} {r : Act α}
    {t : List (Change Desk)} {d : Desk}
    (h : r.Minds (guard foreign) (.request (.switchReadOnly false)) Q (some t) d)
    (ht : ∀ e t', t = e :: t' → e.own = false) : d.Marked foreign := by
  induction r with
  | done a => cases h.1
  | act step next ih =>
    refine ((h 0).1.ready rfl).resolve_right fun hd => ?_
    obtain ⟨e, t', rfl, hown⟩ := hd
    cases (ht e t' rfl).symm.trans hown
  | wait ms next ih =>
    rcases Nat.eq_zero_or_pos ms with hms | hms
    · exact ih (h.1 hms)
    · exact ih (h.2 hms t d .rest)
  | acquire l next => exact h.elim
  | release l next => exact h.1
  | start j next ih => exact ih h

namespace Office
variable {foreign : Handle → Prop} {ask : Request → Prop} {o₀ o o' : Office}

/-- Someone is at work switching the session back to writing. -/
def Reopening (o : Office) : Prop :=
  ∃ c, o.busy = some (c, true) ∧ c.duty = .request (.switchReadOnly false)

theorem Proper.guarded_rest {c : Clerk} (hp : o.Proper (guard foreign)) (hk : o.keeper = some c)
    (hc : c.duty = .request (.switchReadOnly false)) : o.desk.Guarded foreign := by
  have hminds := hp.keeper c hk (⟨false, 0, o.desk, o.desk⟩ :: o.tenure) o.desk
    (.more 0 .rest (Bystands.refl o.desk))
  rw [hc] at hminds
  refine (Minds.marked hminds fun e t' he => ?_).guarded
  cases he
  rfl

/-- Nothing is written for a session that was asked to be read-only, save by someone who switches it
back to writing. -/
theorem Proper.guarded_step (hp : o.Proper (guard foreign)) (hs : Step ask (Respects foreign) o o')
    (hp' : o'.Proper (guard foreign)) (h : o.Reopening ∨ o.desk.Guarded foreign) :
    o'.Reopening ∨ o'.desk.Guarded foreign := by
  by_cases hlock : ∃ c, o.busy = some (c, true)
  · obtain ⟨c, hlock⟩ := hlock
    have hduty (hd : o.Reopening) : c.duty = .request (.switchReadOnly false) := by
      obtain ⟨c', hc', hduty⟩ := hd
      cases hlock.symm.trans hc'
      exact hduty
    cases hs with
    | act now hbusy hrest =>
      cases hlock.symm.trans hbusy
      have hc := hp.busy c true hbusy
      rw [hrest] at hc
      by_cases hback : c.duty = .request (.switchReadOnly false)
      · exact .inl ⟨_, rfl, hback⟩
      · exact .inr ((hc now).1.guarded hback hp.always (h.resolve_left (mt hduty hback)))
    | goOn hbusy =>
      cases hlock.symm.trans hbusy
      exact h.imp_left fun hd => ⟨_, rfl, hduty hd⟩
    | start hbusy =>
      cases hlock.symm.trans hbusy
      exact h.imp_left fun hd => ⟨_, rfl, hduty hd⟩
    | sleep hbusy =>
      cases hlock.symm.trans hbusy
      exact .inr (h.elim (fun hd => hp'.guarded_rest rfl (hduty hd)) id)
    | unlock hbusy =>
      have hmarked : o.desk.Marked foreign := hp'.inOrder (hp.alone _ hbusy) (by simp)
      exact .inr hmarked.guarded
    | _ => simp_all
  · have hguarded : o.desk.Guarded foreign := by
      refine h.resolve_left fun hd => ?_
      obtain ⟨c, hc, -⟩ := hd
      exact hlock ⟨c, hc⟩
    refine .inr ?_
    rcases hp.deed (fun _ _ hd => hd.bystands) hs with hsame | haside | ⟨c, now, hbusy, -⟩
    · rwa [hsame]
    · exact Bystands.guarded haside hp.always hguarded
    · exact (hlock ⟨c, hbusy⟩).elim

theorem Begun.guards (ho : o₀.Begun (Respects foreign))
    (hsingle : o₀.desk.session.policy = .single) (hask : ∀ r, ask r → r.Asks Operation.Neutral)
    (hr : Run ask (Respects foreign) o₀ o) : o.Proper (guard foreign) := by
  obtain ⟨topology, options, registry, n, t, hplay⟩ := ho.connected
  have hterms := Act.terms_connect (fun _ _ hd => hd.session) hplay
  have hmarked := Act.marked_connect (hterms.policy.symm.trans hsingle) hplay
  have hadmits := admits_guard foreign
  exact (ho.proper hadmits hmarked hmarked.toLone).run hadmits.toLasts
    (fun _ _ hd => hd.bystands) (fun r hr => hadmits.request (hask r hr)) hadmits.errand hr

theorem Begun.guarded (ho : o₀.Begun (Respects foreign))
    (hsingle : o₀.desk.session.policy = .single) (hask : ∀ r, ask r → r.Asks Operation.Neutral)
    (hr : Run ask (Respects foreign) o₀ o) : o.Reopening ∨ o.desk.Guarded foreign := by
  induction hr with
  | refl =>
    refine .inr (Marked.guarded ((ho.guards hsingle hask .refl).inOrder ho.keeper fun c hc => ?_))
    rw [ho.busy] at hc
    cases hc
  | tail hr hs ih =>
    exact (ho.guards hsingle hask hr).guarded_step hs (ho.guards hsingle hask (hr.tail hs)) ih

theorem Begun.remembers (ho : o₀.Begun (Respects foreign))
    (hsingle : o₀.desk.session.policy = .single) (hask : ∀ r, ask r → r.Asks Operation.Neutral)
    (hr : Run ask (Respects foreign) o₀ o) (hlater : Run ask (Respects foreign) o o') :
    ∀ deed ∈ o.desk.session.journal, deed ∈ o'.desk.session.journal := by
  induction hlater with
  | refl => exact fun _ => id
  | tail hlater hs ih =>
    intro deed hdeed
    have hp := ho.guards hsingle hask (hr.trans hlater)
    rcases hp.deed (fun _ _ hd => hd.bystands) hs with hsame | haside | ⟨c, now, -, hown⟩
    · rw [hsame]
      exact ih deed hdeed
    · exact Bystands.journal haside deed (ih deed hdeed)
    · exact Guards.journal hown deed (ih deed hdeed)

/-- Whenever nobody holds the lock the connection that serves is marked as the session was asked, by
the last switch that succeeded and by nothing else. While that is to be read-only no write is
accepted on a connection that serves, or on one on which an operation was sent before, save for
someone who is just switching the session back. -/
theorem read_only_survives (ho : o₀.Begun (Respects foreign))
    (hsingle : o₀.desk.session.policy = .single) (hask : ∀ r, ask r → r.Asks Operation.Neutral)
    (hr : Run ask (Respects foreign) o₀ o) :
    (o.Unlocked → ∀ h, o.desk.session.current = some h → ¬foreign h →
      (o.desk.network.connection h).readOnly = o.desk.session.outage.readOnlyRequested) ∧
    (∀ o', Run ask (Respects foreign) o o' → o'.desk.session.outage.readOnlyRequested = true →
      ¬o'.Reopening → ∀ h, ¬foreign h → (o'.desk.session.current = some h ∨
        ∃ op, .invoke h op ∈ o.desk.session.journal) → o'.desk.network.Refuses h) ∧
    (∀ o', Step ask (Respects foreign) o o' →
      o'.desk.session.outage.readOnlyRequested = o.desk.session.outage.readOnlyRequested ∨
      ∃ c readOnly, o.busy = some (c, true) ∧ c.duty = .request (.switchReadOnly readOnly) ∧
        o'.desk.session.outage.readOnlyRequested = readOnly) ∧
    (o.Unlocked → ∀ readOnly t x t' d,
      (Act.switchReadOnly readOnly).Plays (Bystands foreign) t o.desk x t' d →
        d.session.outage.readOnlyRequested = match x with
          | .ok _ => readOnly
          | .error _ => o.desk.session.outage.readOnlyRequested) := by
  have hp := ho.guards hsingle hask hr
  refine ⟨fun hfree h hx hf => ?_, fun o' hlater hasked hno h hf hx => ?_, fun o' hs => ?_,
    fun hfree readOnly t x t' d hplay => ?_⟩
  · have hmarked : o.desk.Marked foreign := hp.inOrder hfree.1 hfree.2
    rw [Session.current, hmarked.active] at hx
    exact hmarked.serving h hx hf
  · have hlone : o'.desk.Lone := (ho.guards hsingle hask (hr.trans hlater)).always
    have hknown : o'.desk.Knows h := by
      rcases hx with hx | ⟨op, hop⟩
      · rw [Session.current, hlone.active] at hx
        exact .inl hx
      · exact .inr ⟨op, ho.remembers hsingle hask hr hlater _ hop⟩
    have hguarded := (ho.guarded hsingle hask (hr.trans hlater)).resolve_left hno
    exact Network.refuses_of_connection (hguarded hasked h hknown hf)
  · rcases hp.deed (fun _ _ hd => hd.bystands) hs with hsame | haside | ⟨c, now, hbusy, hown⟩
    · exact .inl (by rw [hsame])
    · exact .inl (Bystands.asked haside)
    · refine (Guards.asked hown).imp_right fun hd => ?_
      obtain ⟨readOnly, hduty, hnow⟩ := hd
      exact ⟨c, readOnly, hbusy, hduty, hnow⟩
  · have hmarked : o.desk.Marked foreign := hp.inOrder hfree.1 hfree.2
    have hsettled := (Act.settled_switchReadOnly hmarked).plays hplay
    cases x <;> exact hsettled.2

/-- A new session over two hosts that both take writes, of which it wants one. -/
def twofold : Desk :=
  let hosts := Cluster.multiPrimaryHosts 2
  ⟨Session.unopened (.ofHosts .masterOnly (hosts.map (·.1))) { autoReconnect := true } .own,
    { cluster := .ofHosts hosts }⟩

def subdued : Office := ((opened twofold).serving (.switchReadOnly true)).work 0 20

def stricken : Office := subdued.amid fun c => c.stop (Cluster.numbered .primary 0).endpoint

def rescued : Office := (stricken.serving (.execute (.query "SELECT 1"))).work 0 80

/-- Neither the connection that was lost nor the one that has taken over accepts a write. -/
theorem read_only_survives_rescued : ∃ o₀ o₁ o₂ : Office, ∃ a b : Handle,
    o₀.Begun (Respects fun _ => False) ∧ o₀.desk.session.policy = .single ∧
    Run (·.Asks Operation.Neutral) (Respects fun _ => False) o₀ o₁ ∧
    Run (·.Asks Operation.Neutral) (Respects fun _ => False) o₁ o₂ ∧
    o₁.desk.session.current = some a ∧ o₂.desk.session.current = some b ∧ a ≠ b ∧
    .invoke a (.query "SELECT 1") ∈ o₂.desk.session.journal ∧
    (o₂.desk.network.connection b).readOnly = true ∧ o₂.desk.network.Refuses a ∧
    o₂.desk.network.Refuses b := by
  have ho : (opened twofold).Begun (Respects fun _ => False) := begun_opened (by decide +kernel)
  have hsubdued : Run (·.Asks Operation.Neutral) (Respects fun _ => False) (opened twofold)
      subdued := (run_serving _ rfl trivial).trans (run_work 0 20 _)
  have hbusy : subdued.busy = none := Option.isNone_iff_eq_none.1 (by decide +kernel)
  have hquery : Operation.Neutral (.query "SELECT 1") := by decide +kernel
  have hstricken : Step (·.Asks Operation.Neutral) (Respects fun _ => False) subdued stricken :=
    .befall 0 _ hbusy ⟨rfl, .of_eq rfl⟩
  have hserved : Run (·.Asks Operation.Neutral) (Respects fun _ => False) stricken
      (stricken.serving (.execute (.query "SELECT 1"))) := run_serving _ hbusy hquery
  have hrescued : Run (·.Asks Operation.Neutral) (Respects fun _ => False) subdued rescued :=
    .head hstricken (hserved.trans (run_work 0 80 _))
  have hfree : rescued.Unlocked := unlocked_of_rest (by decide +kernel) (by decide +kernel)
  have hasked : rescued.desk.session.outage.readOnlyRequested = true := by decide +kernel
  have hserves : rescued.desk.session.current = some 1 := by decide +kernel
  have hsent : .invoke 0 (.query "SELECT 1") ∈ rescued.desk.session.journal := by decide +kernel
  have hno : ¬rescued.Reopening := by
    rintro ⟨c, hc, -⟩
    exact hfree.2 c hc
  obtain ⟨hmarked, hrefuses, -⟩ := read_only_survives ho (by decide +kernel) (fun _ hr => hr)
    (hsubdued.trans hrescued)
  refine ⟨_, _, _, 0, 1, ho, by decide +kernel, hsubdued, hrescued, by decide +kernel, hserves,
    by decide, hsent, ?_, ?_, ?_⟩
  · rw [hmarked hfree 1 hserves id, hasked]
  · exact hrefuses _ .refl hasked hno 0 id (.inr ⟨_, hsent⟩)
  · exact hrefuses _ .refl hasked hno 1 id (.inl hserves)

end Office
end Failover

import Failover.Proofs.Search.Result
import Failover.Proofs.Session.OrderSteps

/-!
What becomes of the connections that a session opens. One that is of use takes the slot of its role,
and what was there before is closed; the others are closed at once.
-/
namespace Failover
open Desk Routine

namespace Network

/-- A connection is opened, under the next number. -/
structure Opens (h : Handle) (n n' : Network) : Prop where
  next : h = n.connections.size
  size : n'.connections.size = n.connections.size + 1
  good : (n'.connection h).closed = false
  others : ∀ x, x < n.connections.size → n'.connection x = n.connection x

theorem opens_connect {host : Host} {h : Handle} {n : Network}
    (hc : (n.connect host).1 = .ok h) : Opens h n (n.connect host).2 := by
  unfold connect at hc ⊢
  split at hc
  · cases hc
  · rename_i s hs
    dsimp only at hc ⊢
    split at hc
    · rename_i hup
      cases hc
      simp only [hup, if_true]
      refine ⟨rfl, by simp, by simp [connection], fun x hx => ?_⟩
      simp [connection, Array.getElem?_push, Nat.ne_of_lt hx]
    · cases hc

theorem keeps_connect {host : Host} {e : Error} {n : Network}
    (hc : (n.connect host).1 = .error e) : Keeps n (n.connect host).2 := by
  unfold connect at hc ⊢
  split at hc
  · exact .refl n
  · dsimp only at hc ⊢
    split at hc
    · cases hc
    · rename_i hup
      simp only [hup]
      exact .of_eq rfl

end Network

def Role.slot : Role → Active
  | .primary => .primary
  | _ => .secondary

namespace Session
variable {s s' : Session} {a : Active} {x : Handle}

def moves (s : Session) : Active → Bool
  | .primary => decide (s.policy = .single) || !s.outage.readOnlyRequested
  | .secondary => s.outage.readOnlyRequested || s.outage.primaryFailed

/-- A connection takes a slot, and its role is not failed any more. -/
structure Seats (a : Active) (x : Handle) (s s' : Session) : Prop where
  topology : s'.topology = s.topology
  options : s'.options = s.options
  readOnly : s'.outage.readOnlyRequested = s.outage.readOnlyRequested
  slot : ∀ b, s'.slot b = if b = a then some x else s.slot b
  failed : ∀ b, s'.failed b = (decide (b ≠ a) && s.failed b)
  active : s'.active = if s.moves a then a else s.active
  single : s.policy = .single → a = .primary

theorem Seats.policy (h : Seats a x s s') : s'.policy = s.policy := by
  rw [Session.policy, h.topology, ← Session.policy]

theorem Seats.of_core {r r' : Session} (h : Seats a x s s') (hc : r.core = s.core)
    (hc' : r'.core = s'.core) : Seats a x r r' := by
  have hmoves : r.moves a = s.moves a := Session.of_core (moves · a) (fun _ => by cases a <;> rfl) hc
  refine ⟨?_, ?_, ?_, fun b => ?_, fun b => ?_, ?_, fun hp => h.single ?_⟩
  · rw [Session.topology_of_core hc', h.topology, Session.topology_of_core hc]
  · rw [Session.options_of_core hc', h.options, Session.options_of_core hc]
  · rw [readOnlyRequested_of_core hc', h.readOnly, readOnlyRequested_of_core hc]
  · rw [slot_of_core hc', h.slot, slot_of_core hc]
  · rw [failed_of_core hc', h.failed, failed_of_core hc]
  · rw [active_of_core hc', h.active, hmoves, active_of_core hc]
  · rwa [policy_of_core hc] at hp

theorem Seats.well (h : Seats a x s s') (hw : s.Well) : s'.Well := by
  refine ⟨?_, fun hp b hb => ?_, fun hp => ?_⟩
  · obtain ⟨y, hy⟩ := hw.serves
    rw [current_eq] at hy
    by_cases ha : s'.active = a
    · exact ⟨x, by rw [current_eq, h.slot, if_pos ha]⟩
    · refine ⟨y, ?_⟩
      have hstays := h.active
      split at hstays
      · exact (ha hstays).elim
      · rw [current_eq, h.slot, if_neg ha, hstays, hy]
  · rw [h.slot] at hb
    split at hb
    · cases hb
    · rename_i hne
      rw [h.failed, hw.vacant (h.policy.symm.trans hp) b hb]
      simp [hne]
  · have hp' := h.policy.symm.trans hp
    cases h.single hp'
    obtain ⟨-, hnone, hgood⟩ := hw.single hp'
    refine ⟨?_, ?_, ?_⟩
    · rw [h.active]
      simp [moves, hp']
    · exact (h.slot .secondary).trans hnone
    · refine (h.failed .secondary).trans ?_
      simpa [Session.failed] using hgood

theorem Seats.routed (h : Seats a x s s') (hp : s.policy = .replicated) (hr : s.Routed) :
    s'.Routed := by
  have hprimary := h.failed .primary
  have hsecondary := h.failed .secondary
  simp only [Session.failed] at hprimary hsecondary
  have hactive := h.active
  constructor
  · intro hs
    rw [h.readOnly]
    cases hro : s.outage.readOnlyRequested with
    | true => exact .inl rfl
    | false =>
      cases a with
      | primary => simp [moves, hro, hs] at hactive
      | secondary =>
        rw [hprimary]
        by_cases hf : s.outage.primaryFailed = true
        · simp [hf]
        · have hstill : s.active = .secondary := by simpa [moves, hro, hf, hs] using hactive.symm
          have := hr.secondary hstill
          simp_all
  · intro hs hro
    rw [h.readOnly] at hro
    cases a with
    | primary =>
      have hstill : s.active = .primary := by simpa [moves, hro, hp, hs] using hactive.symm
      rw [hsecondary]
      simp [hr.primary hstill hro]
    | secondary => simp [moves, hro, hs] at hactive

theorem Seats.fair (h : Seats a x s s') : Fair s s' := by
  refine ⟨h.topology, h.options, h.well, fun _ hp _ hf => ?_⟩
  cases h.single hp
  rw [h.failed] at hf
  cases hf

end Session

section Connections
variable {ς : Outsiders} {s : Session} {loose : List Handle} {debt : Debt}
  {t : List (Change Desk)} {d d' : Desk} {now : Nat} {a : Active} {x : Handle}

/-- A connection takes its slot; the one that was there is loose. -/
theorem Tidy.seat (h : Tidy [x] t d) (hn : d'.network = d.network)
    (hslot : ∀ b, d'.session.slot b = if b = a then some x else d.session.slot b) :
    Tidy (d.session.slot a).toList (⟨true, now, d, d'⟩ :: t) d' := by
  have hacquired (y : Handle) : Acquired (⟨true, now, d, d'⟩ :: t) y ↔ Acquired t y :=
    acquired_cons_of_size (fun _ => by rw [hn]) y
  obtain ⟨hm, ho⟩ := h.pending x List.mem_cons_self
  -- What is loose is in no slot, so nothing is put into both.
  have hfree (b : Active) : d.session.slot b ≠ some x := by
    intro hb
    exact (h.seated b x hb).2.2 List.mem_cons_self
  refine ⟨fun b y hb => ?_, fun y hy hgood => ?_, fun b c y hb hc => ?_, fun y hy => ?_, ?_⟩
  · rw [hslot] at hb
    rw [hn]
    split at hb
    · cases hb
      exact ⟨(hacquired x).2 hm, ho, by simpa using hfree a⟩
    · rename_i hne
      obtain ⟨hy, hgood, -⟩ := h.seated b y hb
      refine ⟨(hacquired y).2 hy, hgood, fun hmem => hne ?_⟩
      exact h.distinct b a y hb (by simpa using hmem)
  · rw [hn] at hgood
    rcases h.kept y ((hacquired y).1 hy) hgood with ⟨b, hb⟩ | hyx
    · by_cases he : b = a
      · exact .inr (by simpa [he] using hb)
      · exact .inl ⟨b, by rw [hslot, if_neg he, hb]⟩
    · cases List.mem_singleton.1 hyx
      exact .inl ⟨a, by rw [hslot, if_pos rfl]⟩
  · rw [hslot] at hb hc
    split at hb <;> split at hc <;> rename_i hba hca
    · exact hba.trans hca.symm
    · cases hb
      exact (hfree c hc).elim
    · cases hc
      exact (hfree b hb).elim
    · exact h.distinct b c y hb hc
  · obtain ⟨hy, hgood, -⟩ := h.seated a y (by simpa using hy)
    exact ⟨(hacquired y).2 hy, by rwa [hn]⟩
  · cases d.session.slot a <;> simp

/-- A connection is opened, and loose. -/
theorem Held.opens {n : Network} (h : Held ς s loose debt t d) (ho : d.network.Opens x n) :
    Held ς s (x :: loose) debt (⟨true, now, d, ⟨d.session, n⟩⟩ :: t) ⟨d.session, n⟩ := by
  have hacquired (y : Handle) :
      Acquired (⟨true, now, d, ⟨d.session, n⟩⟩ :: t) y ↔ y = x ∨ Acquired t y := by
    refine acquired_cons.trans (or_congr_left ?_)
    dsimp only
    rw [ho.size, ho.next]
    constructor
    · intro hy
      exact Nat.le_antisymm (Nat.le_of_lt_succ hy.2.2) hy.2.1
    · rintro rfl
      exact ⟨rfl, Nat.le_refl _, Nat.lt_succ_self _⟩
  have hold (y : Handle) (hy : Acquired t y) : y ≠ x ∧ n.connection y = d.network.connection y := by
    have hlt := h.known y hy
    exact ⟨fun he => Nat.ne_of_lt hlt (he.trans ho.next), ho.others y hlt⟩
  refine ⟨h.alterNetwork (fun y hy => ?_) fun ht => ?_, h.core⟩
  · rw [ho.size]
    rcases (hacquired y).1 hy with rfl | hy
    · exact Nat.lt_succ_of_le (Nat.le_of_eq ho.next)
    · exact Nat.lt_succ_of_lt (h.known y hy)
  · refine ⟨fun b y hb => ?_, fun y hy hgood => ?_, ht.distinct, fun y hy => ?_, ?_⟩
    · obtain ⟨hy, hgood, hn⟩ := ht.seated b y hb
      obtain ⟨hne, hsame⟩ := hold y hy
      exact ⟨(hacquired y).2 (.inr hy), by rw [hsame, hgood], by simp [hne, hn]⟩
    · rcases (hacquired y).1 hy with rfl | hy
      · exact .inr List.mem_cons_self
      · rw [(hold y hy).2] at hgood
        exact (ht.kept y hy hgood).imp_right (List.mem_cons_of_mem x)
    · rcases List.mem_cons.1 hy with rfl | hy
      · exact ⟨(hacquired y).2 (.inl rfl), ho.good⟩
      · obtain ⟨hy, hgood⟩ := ht.pending y hy
        exact ⟨(hacquired y).2 (.inr hy), by rw [(hold y hy).2, hgood]⟩
    · exact List.nodup_cons.2 ⟨fun hx => (hold x (ht.pending x hx).1).1 rfl, ht.nodup⟩

/-- A loose connection is closed. -/
theorem Held.closes (h : Held ς s (x :: loose) debt t d) :
    Held ς s loose debt (⟨true, now, d, ⟨d.session, d.network.close x⟩⟩ :: t)
      ⟨d.session, d.network.close x⟩ := by
  have hsize : (d.network.close x).connections.size = d.network.connections.size :=
    Network.size_updateConnection x _ d.network
  have hacquired (y : Handle) :
      Acquired (⟨true, now, d, ⟨d.session, d.network.close x⟩⟩ :: t) y ↔ Acquired t y :=
    acquired_cons_of_size (fun _ => hsize) y
  have hother (y : Handle) (hy : y ≠ x) :
      (d.network.close x).connection y = d.network.connection y :=
    Network.connection_updateConnection_of_ne _ d.network hy
  refine ⟨h.alterNetwork (fun y hy => ?_) fun ht => ?_, h.core⟩
  · rw [hsize]
    exact h.known y ((hacquired y).1 hy)
  · have hclosed : ((d.network.close x).connection x).closed = true := by
      have hx := h.known x (ht.pending x List.mem_cons_self).1
      rw [Network.close, Network.connection_updateConnection_self _ hx]
    have hnodup := List.nodup_cons.1 ht.nodup
    refine ⟨fun b y hb => ?_, fun y hy hgood => ?_, ht.distinct, fun y hy => ?_, hnodup.2⟩
    · obtain ⟨hy, hgood, hn⟩ := ht.seated b y hb
      rw [List.mem_cons, not_or] at hn
      exact ⟨(hacquired y).2 hy, by rw [hother y hn.1, hgood], hn.2⟩
    · have hne : y ≠ x := by
        rintro rfl
        rw [show ((d.network.close y).connection y).closed = false from hgood] at hclosed
        cases hclosed
      rw [hother y hne] at hgood
      exact (ht.kept y ((hacquired y).1 hy) hgood).imp_right fun hm =>
        (List.mem_cons.1 hm).resolve_left hne
    · obtain ⟨hm, hgood⟩ := ht.pending y (List.mem_cons_of_mem x hy)
      have hne : y ≠ x := by
        rintro rfl
        exact hnodup.1 hy
      exact ⟨(hacquired y).2 hm, by rw [hother y hne, hgood]⟩

theorem Held.seat {f : Session → Session} (hf : Session.Central f) (now : Nat)
    (h : Held ς s [x] debt t d) (hseats : Session.Seats a x s (f s))
    (hclosed : (f d.session).closed = d.session.closed)
    (hloop : (f d.session).retryLoop = d.session.retryLoop) :
    Fair d.session (f d.session) ∧
      Held ς (f s) (s.slot a).toList debt (⟨true, now, d, ⟨f d.session, d.network⟩⟩ :: t)
        ⟨f d.session, d.network⟩ := by
  have hdesk := hseats.of_core h.core (hf.congr h.core)
  refine h.change hf hclosed hloop hseats.fair rfl (fun hd hp => .inr ⟨hd, ?_⟩)
    (fun b hb => .inr ⟨hb, fun hfailed => ?_⟩) fun ht => ?_
  · exact hseats.routed (hseats.policy.symm.trans hp)
  · rw [hseats.failed, Bool.and_eq_true] at hfailed
    exact hfailed.2
  · rw [← Session.slot_of_core h.core]
    exact ht.seat rfl hdesk.slot

theorem Held.seated (h : Held ς s [x] debt t d) (hx : s.slot a = some x) : Held ς s [] debt t d := by
  refine ⟨⟨h.shut, h.known, h.well, h.routed, h.watched, fun hn ho => ?_⟩, h.core⟩
  have hd : d.session.slot a = some x := by rw [Session.slot_of_core h.core, hx]
  exact (((h.tidy hn ho).seated a x hd).2.2 List.mem_cons_self).elim

end Connections

namespace Act
variable {ς : Outsiders} {s : Session} {loose : List Handle} {debt : Debt}
  {t : List (Change Desk)} {d : Desk} {a : Active} {x : Handle}

theorem onNetwork_bind {α β : Type} (r : NetRoutine Unit Errand α)
    (f : α → NetRoutine Unit Errand β) :
    onNetwork (r >>= f) = onNetwork r >>= fun a => onNetwork (f a) :=
  embed_bind r f

def Dialled (ς : Outsiders) (s : Session) (loose : List Handle) (debt : Debt) :
    Except Error Handle → List (Change Desk) → Desk → Prop
  | .error _ => Held ς s loose debt
  | .ok c => Held ς s (c :: loose) debt

theorem orderly_connect (host : Host) (h : Held ς s loose debt t d) :
    (onNetwork (Calls.connect host)).Ensures (watch ς) (Dialled ς s loose debt) t d := by
  have hreal {t : List (Change Desk)} {d : Desk} (h : Held ς s loose debt t d) :
      (onNetwork (transact fun _ n => n.connect host)).Ensures (watch ς)
        (Dialled ς s loose debt) t d := by
    refine fun now => ⟨fun hc => ⟨hc, .of_core rfl⟩, ?_⟩
    change Dialled ς s loose debt (d.network.connect host).1 _ _
    cases hx : (d.network.connect host).1 with
    | error e =>
      have hkeeps := Network.keeps_connect hx
      exact h.pass (Harmless.outsideLock ⟨rfl, rfl, rfl, rfl, hkeeps⟩) fun _ => hkeeps.size
    | ok c => exact h.opens (Network.opens_connect hx)
  have hmeet : (onNetwork (transact fun _ n => n.meet host.endpoint .connect)).Steps Harmless :=
    harmless_onNetwork (steps_transact fun _ => Network.AllowsCalls.meet .connect host.endpoint)
  unfold Calls.connect Calls.onHost
  rw [onNetwork_bind]
  refine (orderly_harmless hmeet h).bind fun met t d h => ?_
  obtain ⟨delay, trouble⟩ := met
  dsimp only
  rw [onNetwork_bind]
  refine (orderly_harmless (harmless_onNetwork (steps_pause delay)) h).bind fun _ t d h => ?_
  split
  · exact h
  · exact h
  · exact h
  · rename_i hno
    cases hno
  · exact hreal h

theorem orderly_close (h : Held ς s (x :: loose) debt t d) :
    (onNetwork (Calls.close x)).Ensures (watch ς) (fun _ => Held ς s loose debt) t d :=
  fun _ => ⟨fun hc => ⟨hc, .of_core rfl⟩, h.closes⟩

theorem orderly_retire {old : Option Handle} (h : Held ς s old.toList debt t d)
    (hx : s.slot a = some x) :
    (retire old x).Ensures (watch ς) (fun _ => Held ς s [] debt) t d := by
  cases old with
  | none => exact h
  | some y =>
    by_cases hy : y = x
    · subst hy
      have hnothing : retire (some y) y = pure () := by simp [retire, Option.filter]
      rw [hnothing]
      exact Held.seated h hx
    · have hcloses : retire (some y) x = onNetwork (Calls.close y) := by
        simp [retire, Option.filter, hy]
      rw [hcloses]
      exact orderly_close h

def Seated (ς : Outsiders) (a : Active) (x : Handle) (s : Session) (debt : Debt)
    (t : List (Change Desk)) (d : Desk) : Prop :=
  ∃ s', Session.Seats a x s s' ∧ Held ς s' [] debt t d

theorem orderly_takeSlot {f : Session → Session} {r : Session} (hf : Session.Central f)
    (hclosed : ∀ s, (f s).closed = s.closed) (hloop : ∀ s, (f s).retryLoop = s.retryLoop)
    (hr : r.core = s.core) (h : Held ς r [x] debt t d) (hseats : Session.Seats a x r (f r)) :
    (do update f; retire (r.slot a) x : Act Unit).Ensures (watch ς) (fun _ => Seated ς a x s debt)
      t d := by
  refine ensures_bind.2 (ensures_change.2 fun now => ?_)
  obtain ⟨hfair, h⟩ := Held.seat hf now h hseats (hclosed d.session) (hloop d.session)
  have hslot : (f r).slot a = some x := by rw [hseats.slot, if_pos rfl]
  refine ⟨fun hc => ⟨(hclosed d.session).symm.trans hc, hfair⟩, ?_⟩
  exact (orderly_retire h hslot).mono fun _ _ _ h => ⟨f r, hseats.of_core hr.symm rfl, h⟩

end Act
end Failover

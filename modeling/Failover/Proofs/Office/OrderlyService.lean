import Failover.Proofs.Office.Service
import Failover.Proofs.Session.OrderlySwitch

/-!
All that callers ask of a session, and all that it does in the background, leaves it in order
whenever the lock is let go.
-/
namespace Failover
open Desk Routine

/-- The rules of a session: it is in order when nobody holds the lock, and empty once it is closed.
-/
def tending (ς : Outsiders) : Regime where
  lockFree := OutsideLock ς
  own _ := (watch ς).own
  inOrder := Order ς [] {}
  upon duty d := duty = .request .close → d.session.primary = none ∧ d.session.secondary = none

namespace Act
variable {ς : Outsiders} {s : Session} {loose : List Handle} {debt : Debt} {duty : Duty}
  {t : List (Change Desk)} {d : Desk} {α : Type}

section Background

def Rounded (ς : Outsiders) (more : Bool) (t : List (Change Desk)) (d : Desk) : Prop :=
  Order ς [] {} t d ∧ (more = false → d.session.retryLoop.armed = false)

theorem orderly_stopLoop (h : Held ς s [] {} t d)
    (hs : d.session.closed = false → s.exhausted = true ∨ ∀ a, s.failed a = false) :
    stopRetry.Ensures (watch ς) (Rounded ς) t d :=
  (orderly_stopRetry h hs).mono fun _ _ _ hd => ⟨hd.1.toOrder, fun _ => hd.2⟩

theorem orderly_retryAgain (h : Held ς s [] {} t d) :
    retryAgain.Ensures (watch ς) (Rounded ς) t d := by
  refine orderly_session h fun t h => ?_
  split
  · rename_i hspent
    exact orderly_stopLoop h fun _ => .inl hspent
  · exact ⟨h.toOrder, nofun⟩

theorem orderly_retryRound (h : Order ς [] {} t d) : retryRound.Ensures (watch ς) (Rounded ς) t d := by
  refine orderly_session (.of_order h) fun t h => ?_
  split
  · rename_i hidle
    refine orderly_stopLoop h fun hc => .inr fun a => ?_
    have hgood : d.session.outage.primaryFailed = false ∧
        d.session.outage.secondaryFailed = false := by
      simpa [hc, Outage.anyFailed] using hidle
    cases a with
    | primary => exact hgood.1
    | secondary => exact hgood.2
  · refine (orderly_harmless harmless_read h).bind fun due t d h => ?_
    split
    · refine (orderly_reconnect h).bind fun x t d hd => ?_
      obtain ⟨s', hr, h⟩ := hd
      cases x with
      | error e => exact orderly_retryAgain h
      | ok _ => exact orderly_stopLoop h fun hc => .inr (hr.none_failed h rfl hc)
    · exact orderly_retryAgain h

theorem orderly_checkPrimary (s₀ : Session) (h : Held ς s [] {} t d) :
    (checkPrimary s₀).Ensures (watch ς) (fun _ => Order ς [] {}) t d := by
  unfold checkPrimary
  split
  · rename_i p _ _
    refine (orderly_harmless (harmless_onNetwork (Health.keeps_ofPrimaryWithin _ p)) h).bind
      fun r t d h => ?_
    split
    · exact h.toOrder
    · refine (orderly_failPrimary p h).bind fun _ t d hd => ?_
      obtain ⟨now, h⟩ := hd
      have hreplace : (primaryFailReplicated none false).Ensures (watch ς) (fun _ => Order ς [] {})
          t d := orderly_primaryFailReplicated h (Session.failed_mark s .primary now) nofun
      exact hreplace.discard
  · exact h.toOrder

end Background

section Closing

theorem orderly_closeIfOpen (x : Handle) (h : Held ς s (x :: loose) debt t d) :
    (closeIfOpen x).Ensures (watch ς) (fun _ => Held ς s loose debt) t d := by
  intro now
  refine ⟨fun hc => ⟨hc, .of_core rfl⟩, ?_⟩
  change Held ς s loose debt
    (⟨true, now, d, ⟨d.session, if (d.network.connection x).closed then d.network
      else d.network.close x⟩⟩ :: t)
    ⟨d.session, if (d.network.connection x).closed then d.network else d.network.close x⟩
  split
  · rename_i hclosed
    have hacquired (y : Handle) :
        Acquired (⟨true, now, d, ⟨d.session, d.network⟩⟩ :: t) y ↔ Acquired t y :=
      acquired_cons_of_size (fun _ => rfl) y
    refine ⟨h.alterNetwork (fun y hy => h.known y ((hacquired y).1 hy)) fun ht => ?_, h.core⟩
    have hopen := (ht.pending x List.mem_cons_self).2
    rw [hclosed] at hopen
    cases hopen
  · exact h.closes

theorem orderly_closeSlot (o : Option Handle) (h : Held ς s (o.toList ++ loose) debt t d) :
    (o.forM closeIfOpen).Ensures (watch ς) (fun _ => Held ς s loose debt) t d := by
  cases o with
  | none => exact h
  | some x => exact orderly_closeIfOpen x h

/-- The slots are emptied, and what was in them is loose. -/
theorem orderly_vacate (h : Held ς s [] debt t d) (hc : d.session.closed = true) :
    (update fun s => { s with primary := none, secondary := none }).Ensures (watch ς)
      (fun _ => Held ς { s with primary := none, secondary := none }
        (s.primary.toList ++ s.secondary.toList) debt) t d := by
  refine ensures_change.2 fun now => ⟨fun ho => ?_, ?_⟩
  · rw [show d.session.closed = false from ho] at hc
    cases hc
  · have hopen (ho : d.session.closed = false) : False := by
      rw [hc] at ho
      cases ho
    have hcore : ({ d.session with primary := none, secondary := none } : Session).core =
        ({ s with primary := none, secondary := none } : Session).core := by
      have hf : Session.Central fun s => { s with primary := none, secondary := none } :=
        fun _ => rfl
      exact hf.congr h.core
    refine ⟨h.amend rfl (fun ho => (hopen ho).elim) (fun ho => (hopen ho).elim)
      (fun ho => (hopen ho).elim) fun ht => ?_, hcore⟩
    have hacquired (y : Handle) : Acquired (⟨true, now, d,
        ⟨{ d.session with primary := none, secondary := none }, d.network⟩⟩ :: t) y ↔
        Acquired t y := acquired_cons_of_size (fun _ => by rfl) y
    have hprimary : d.session.slot .primary = s.primary := Session.primary_of_core h.core
    have hsecondary : d.session.slot .secondary = s.secondary := Session.secondary_of_core h.core
    have hslots (y : Handle) : y ∈ s.primary.toList ++ s.secondary.toList ↔
        ∃ a, d.session.slot a = some y := by
      rw [List.mem_append, Option.mem_toList, Option.mem_toList, ← hprimary, ← hsecondary]
      constructor
      · intro hy
        exact hy.elim (fun hy => ⟨_, hy⟩) fun hy => ⟨_, hy⟩
      · rintro ⟨_ | _, hy⟩
        · exact .inl hy
        · exact .inr hy
    refine ⟨fun a y hy => ?_, fun y hy hgood => ?_, fun a b y hy => ?_, fun y hy => ?_, ?_⟩
    · cases a <;> cases hy
    · refine .inr ((hslots y).2 ?_)
      exact (ht.kept y ((hacquired y).1 hy) hgood).resolve_right nofun
    · cases a <;> cases hy
    · obtain ⟨a, ha⟩ := (hslots y).1 hy
      obtain ⟨hm, hgood, -⟩ := ht.seated a y ha
      exact ⟨(hacquired y).2 hm, hgood⟩
    · rw [← hprimary, ← hsecondary]
      refine List.nodup_append.2 ⟨?_, ?_, fun x hx y hy he => ?_⟩
      · cases d.session.slot .primary <;> simp
      · cases d.session.slot .secondary <;> simp
      · subst he
        cases ht.distinct .primary .secondary x (by simpa using hx) (by simpa using hy)

end Closing

section Service

theorem abides_orderly {body : Act α} {Q : α → Desk → Prop} (hduty : duty ≠ .request .close)
    (h : ∀ t d, Order ς [] {} t d →
      body.Ensures (watch ς) (fun a t d => Order ς [] {} t d ∧ Q a d) t d) :
    (locked () body).Abides (tending ς) duty (fun a _ => Q a) false t d :=
  abides_locked fun t' d' _ hd =>
    (h t' d' hd).mono fun _ _ _ hq => ⟨⟨hq.1, fun he => (hduty he).elim⟩, hq.2⟩

/-- A session that is closed keeps neither connection. -/
theorem abides_close : close.Abides (tending ς) (.request .close) (fun _ _ _ => True) false t d := by
  have hbody (t' : List (Change Desk)) (d' : Desk) (h : Order ς [] {} t' d')
      (hc : d'.session.closed = true) : emptySlots.Ensures (watch ς)
      (fun _ t d => Order ς [] {} t d ∧ d.session.primary = none ∧ d.session.secondary = none)
      t' d' := by
    refine orderly_session (.of_order h) fun t h => ?_
    refine (orderly_vacate h hc).bind fun _ t d h => ?_
    refine (orderly_closeSlot _ h).bind fun _ t d h => ?_
    refine (orderly_closeSlot _ (by rwa [List.append_nil])).mono fun _ t d h => ?_
    exact ⟨h.toOrder, Session.primary_of_core h.core,
      Session.secondary_of_core h.core⟩
  refine Abides.bind (Q := fun _ t d => d.session.closed = true ∧
    ∃ e ∈ t, e.after.session.closed = true) (fun now => ⟨?_, rfl, rfl, ?_⟩) fun first t d hd => ?_
  · exact ⟨rfl, fun _ => rfl, nofun, Nat.le_refl _, fun _ _ _ _ => rfl⟩
  · exact ⟨_, List.mem_cons_self, rfl⟩
  · obtain ⟨hc, e, he, hce⟩ := hd
    split
    · refine Abides.bind (Q := fun _ t _ => ∃ e ∈ t, e.after.session.closed = true)
        (abides_change fun now => ⟨?_, e, List.mem_cons_of_mem _ he, hce⟩) fun _ t d hd => ?_
      · refine ⟨rfl, id, fun ho => ?_, Nat.le_refl _, fun _ _ _ _ => rfl⟩
        rw [show d.session.closed = false from ho] at hc
        cases hc
      · obtain ⟨e, he, hce⟩ := hd
        -- Others may have held the lock meanwhile, but none of them opens a session that was closed.
        refine abides_locked fun t' d' ht h => ?_
        refine (hbody t' d' h (h.shut ⟨e, ht.mem he, hce⟩)).mono fun _ t d hd => ?_
        exact ⟨⟨hd.1, fun _ => hd.2⟩, trivial⟩
    · exact ⟨rfl, trivial⟩

end Service

end Act

/-- All that a session does without its lock may happen to one that somebody else works at. -/
theorem Desk.Side.outsideLock {ς : Outsiders} {asked : Operation → Prop} {d d' : Desk}
    (h : Side Network.Keeps asked d d') : OutsideLock ς d d' := by
  have hsession {s : Session} (hcore : s.core = d.session.core)
      (hclosed : s.closed = d.session.closed)
      (harmed : 0 < s.users → d.session.retryLoop.armed = true → s.retryLoop.armed = true) :
      OutsideLock ς d ⟨s, d.network⟩ :=
    ⟨hcore, fun hc => hclosed.trans hc, fun _ => harmed, Nat.le_refl _, fun _ _ _ _ => rfl⟩
  cases h with
  | network n hk =>
    exact ⟨rfl, id, fun _ _ => id, Nat.le_of_eq hk.size.symm, fun _ x _ _ => hk.closed x⟩
  | invoke x op _ _ => exact hsession rfl rfl fun _ => id
  | count => exact hsession (Session.core_countQuery d.session) rfl fun _ => id
  | idle r _ _ => exact hsession rfl rfl fun _ => id
  | staff users reconnecting => exact hsession rfl rfl fun _ => id
  | leave =>
    unfold Session.leave
    dsimp only
    split
    · rename_i hnone
      refine hsession rfl rfl fun hu => ?_
      exact (Nat.not_lt_zero 0 (Nat.lt_of_lt_of_eq hu hnone)).elim
    · exact hsession rfl rfl fun _ => id
  | ended g harmed =>
    refine hsession rfl rfl fun hu ha => ?_
    rw [harmed hu] at ha
    cases ha
  | rested g => exact hsession rfl rfl fun _ => id

namespace Office
variable {ς : Outsiders} {t : List (Change Desk)}

/-- A session can be tended while it does all its work. -/
theorem admits_tending (ς : Outsiders) : (tending ς).Admits where
  side _ _ h := h.outsideLock
  failover _ failed _ _ _ hr := Act.abides_orderly hr.not_close fun _ _ h =>
    (Act.orderly_handleFailover failed h).mono fun _ _ _ h => ⟨h, trivial⟩
  switch _ _ _ := Act.abides_orderly (Q := fun _ _ => True) (by nofun) fun _ _ h =>
    (Act.orderly_switchReadOnly h).mono fun _ _ _ h => ⟨h, trivial⟩
  reconnect _ _ := by
    refine Act.abides_orderly (Q := fun _ _ => True) (by nofun) fun t d h => ?_
    refine (Act.orderly_reconnect (.of_order h)).mono fun _ _ _ hd => ?_
    obtain ⟨s', -, h⟩ := hd
    exact ⟨h.toOrder, trivial⟩
  close _ _ := Act.abides_close
  background _ _ := by
    refine Act.abides_orderly (Q := fun _ _ => True) (by nofun) fun t d h => ?_
    refine Act.orderly_session (.of_order h) fun t h => ?_
    refine (Act.orderly_harmless Act.harmless_read h).bind fun due t d' h => ?_
    split
    · refine (Act.orderly_tryReconnect (Act.orderly_reconnect h)).mono fun _ _ _ hd => ?_
      obtain ⟨s', h⟩ := hd
      exact ⟨h.toOrder, trivial⟩
    · exact ⟨h.toOrder, trivial⟩
  retry _ _ _ _ := Act.abides_orderly (by nofun) fun _ _ h => Act.orderly_retryRound h
  ping _ _ _ _ := by
    refine Act.abides_orderly (Q := fun _ _ => True) (by nofun) fun t d h => ?_
    refine Act.orderly_session (.of_order h) fun t h => ?_
    split
    · exact ⟨h.toOrder, trivial⟩
    · exact (Act.orderly_checkPrimary _ h).bind fun _ _ _ h => ⟨h, trivial⟩

/-- Someone who comes with a connection and hands it over. -/
def HandsIn (c : Clerk) : Prop :=
  ∃ e role x, c = ⟨.errand e, do
    Routine.locked () (Act.found role x)
    return none⟩

theorem waits_handsIn {c : Clerk} (hn : ς.handsIn) (hc : HandsIn c) (t : List (Change Desk)) :
    Waits (tending ς) t c := by
  intro t' d' _
  obtain ⟨e, role, x, rfl⟩ := hc
  have hgiven {t : List (Change Desk)} {d : Desk} (h : Order ς [] {} t d) :
      Held ς d.session [x] {} t d :=
    ⟨⟨h.shut, h.known, h.well, h.routed, h.watched, fun hno => (hno hn).elim⟩, rfl⟩
  refine Abides.bind (Act.abides_orderly (Q := fun _ _ => True) (by nofun) fun _ _ h => ?_)
    fun _ _ _ _ => ⟨rfl, trivial⟩
  refine (Act.orderly_found role (hgiven h)).mono fun _ _ _ hd => ?_
  obtain ⟨s', -, h⟩ := hd
  exact ⟨h.toOrder, trivial⟩

end Office
end Failover

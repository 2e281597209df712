import Failover.Proofs.Session.Moves

/-!
Queries are counted by whoever begins them. What comes after that leaves the memory of failures
alone wherever it is done without the lock.
-/
namespace Failover
open Desk Routine

namespace Outage
variable {o : Outage}

theorem queries_countQuery (hf : o.primaryFailed = true) :
    o.countQuery.queries = o.queries + 1 := by
  rw [countQuery, if_pos hf]

theorem countQuery_of_good (hf : o.primaryFailed = false) : o.countQuery = o := by
  rw [countQuery, hf]
  rfl

end Outage

def Desk.SameOutage (d d' : Desk) : Prop := d'.session.outage = d.session.outage

namespace Routine
variable {ok ok' : Desk → Desk → Prop} {holds : Bool} {α β : Type}

/-- Every step that is taken without the lock is allowed. -/
def Beside (ok : Desk → Desk → Prop) : Act α → Bool → Prop
  | .done _, _ => True
  | .act step next, holds => ∀ now d,
    (holds = false → ok d (step now d)) ∧ (next now d).Beside ok holds
  | .wait _ next, holds => next.Beside ok holds
  | .acquire _ next, _ => next.Beside ok true
  | .release _ next, _ => next.Beside ok false
  | .start _ next, holds => next.Beside ok holds

theorem Beside.held {r : Act α} (h : r.Beside ok false) : r.Beside ok holds := by
  induction r with
  | done a => trivial
  | act step next ih => exact fun now d => ⟨fun _ => (h now d).1 rfl, ih now d (h now d).2⟩
  | wait ms next ih => exact ih h
  | acquire l next => exact h
  | release l next => exact h
  | start j next ih => exact ih h

theorem Beside.bind {r : Act α} {f : α → Act β} (h : r.Beside ok holds)
    (hf : ∀ a, (f a).Beside ok false) : (r >>= f).Beside ok holds := by
  change (r.andThen f).Beside ok holds
  induction r generalizing holds with
  | done a => exact (hf a).held
  | act step next ih => exact fun now d => ⟨(h now d).1, ih now d (h now d).2⟩
  | wait ms next ih => exact ih h
  | acquire l next ih => exact ih h
  | release l next ih => exact ih h
  | start j next ih => exact ih h

theorem Beside.discard {r : Act α} (h : r.Beside ok holds) : (discard r).Beside ok holds :=
  Beside.bind (f := fun _ => .done ()) h fun _ => trivial

theorem Steps.beside {r : Act α} (h : r.Steps ok) : r.Beside ok holds := by
  induction r with
  | done a => trivial
  | act step next ih => exact fun now d => ⟨fun _ => (h now d).1, ih now d (h now d).2⟩
  | wait ms next ih => exact ih h
  | acquire l next => exact h.elim
  | release l next => exact h.elim
  | start j next ih => exact ih h

theorem Steps.beside_locked {body : Act α} (h : body.Steps ok') :
    (locked () body).Beside ok false := by
  change (body.andThen fun a => release () (done a)).Beside ok true
  induction body with
  | done a => trivial
  | act step next ih => exact fun now d => ⟨nofun, ih now d (h now d).2⟩
  | wait ms next ih => exact ih h
  | acquire l next => exact h.elim
  | release l next => exact h.elim
  | start j next ih => exact ih h

end Routine

theorem Clerk.Goes.beside {ok : Desk → Desk → Prop} {c c' : Clerk} {holds holds' : Bool}
    (hgo : c.Goes holds c' holds') (h : c.rest.Beside ok holds) : c'.rest.Beside ok holds' := by
  cases hgo with
  | act now d hrest =>
    rw [hrest] at h
    exact (h now d).2
  | wait hrest | lock hrest | unlock hrest | start hrest =>
    rw [hrest] at h
    exact h

namespace Act
variable {α β : Type} {op : Operation}

/-- Work that counts the operation first if it is a query, and then leaves the memory of failures
alone without the lock. -/
def Announces (op : Operation) (r : Act α) : Prop :=
  if op.isQuery then ∃ next, (∀ now d, (next now d).Beside SameOutage false) ∧
    r = .act (fun _ d => ⟨{ d.session with outage := d.session.outage.countQuery }, d.network⟩) next
  else r.Beside SameOutage false

theorem Announces.bind {r : Act α} {f : α → Act β} (h : r.Announces op)
    (hf : ∀ a, (f a).Beside SameOutage false) : (r >>= f).Announces op := by
  unfold Announces at h ⊢
  by_cases hquery : op.isQuery = true
  · rw [if_pos hquery] at h ⊢
    obtain ⟨next, hnext, rfl⟩ := h
    exact ⟨fun now d => next now d >>= f, fun now d => (hnext now d).bind hf, rfl⟩
  · rw [if_neg hquery] at h ⊢
    exact h.bind hf

theorem beside_read {f : Nat → Desk → α} : (read f : Act α).Beside SameOutage false :=
  Steps.beside (steps_read fun d => (rfl : SameOutage d d))

theorem beside_change {f : Nat → Desk → Desk} (h : ∀ now d, SameOutage d (f now d)) :
    (change f : Act Unit).Beside SameOutage false :=
  Steps.beside (steps_change h)

theorem beside_onNetwork {r : NetRoutine Unit Errand α} (hr : r.Steps Network.Grows) :
    (onNetwork r).Beside SameOutage false :=
  Steps.beside (Steps.embed (fun d n _ => (rfl : SameOutage d ⟨d.session, n⟩)) hr)

theorem sameOutage_touchPing : touchPing.Steps SameOutage := by
  refine Steps.bind (steps_transact fun _ d => ?_) fun armed => steps_forM fun g => trivial
  dsimp only
  split <;> rfl

theorem beside_spawnReconnect : spawnReconnect.Beside SameOutage false := by
  refine Steps.beside (Steps.bind (steps_transact fun _ d => ?_) fun fresh => ?_)
  · split <;> rfl
  · split <;> trivial

theorem beside_leave : (updateNow Session.leave).Beside SameOutage false := by
  refine beside_change fun _ d => ?_
  unfold SameOutage Session.leave
  dsimp only
  split <;> rfl

theorem beside_moves {body : Act α} (h : body.Steps (Move (fun _ => True) fun _ => True)) :
    (locked () body).Beside SameOutage false :=
  h.beside_locked

theorem beside_needsFailover (failed : Handle) (op : Option Operation) :
    (needsFailover failed op).Beside SameOutage false :=
  beside_moves (moves_handleFailover failed op)

theorem beside_handleFailure (failed : Handle) (op : Option Operation) (e : Error) :
    (handleFailure failed op e).Beside SameOutage false :=
  (beside_needsFailover failed op).bind fun _ => trivial

theorem announces_prepare (op : Operation) : (prepare op).Announces op := by
  have hdue : (do
      if (← session).policy = .replicated && (← shouldReconnect) then spawnReconnect :
        Act Unit).Beside SameOutage false := by
    refine beside_read.bind fun s => beside_read.bind fun due => ?_
    split
    · exact beside_spawnReconnect
    · trivial
  unfold prepare Announces
  split
  · exact ⟨_, fun _ _ => hdue, rfl⟩
  · exact hdue

theorem announces_execute (op : Operation) : (execute op).Announces op := by
  refine (announces_prepare op).bind fun _ => beside_read.bind fun s => ?_
  split
  · trivial
  · rename_i x _
    have hinvoke : (invoke x op).Beside SameOutage false :=
      (beside_change fun _ _ => rfl).bind fun _ => beside_onNetwork (Calls.keeps_invoke x op).grows
    refine hinvoke.bind fun r => ?_
    cases r with
    | ok r => exact sameOutage_touchPing.beside.bind fun _ => trivial
    | error e =>
      dsimp only
      split
      · exact beside_handleFailure x (some op) e
      · trivial

theorem announces_request (op : Operation) :
    (Clerk.fresh (.request (.execute op))).rest.Announces op := by
  refine Announces.bind ?_ fun _ => trivial
  exact Announces.bind (f := fun _ => .done ())
    ((announces_execute op).bind fun _ => trivial) fun _ => trivial

theorem beside_request (r : Request) (hr : ∀ op, r ≠ .execute op) :
    (Clerk.fresh (.request r)).rest.Beside SameOutage false := by
  refine Beside.bind (Beside.discard ?_) fun _ => trivial
  cases r with
  | execute op => exact (hr op rfl).elim
  | switchReadOnly readOnly =>
    exact (beside_moves (moves_switchReadOnly readOnly)).bind fun _ => trivial
  | reconnect => exact (beside_moves moves_reconnect).bind fun _ => trivial
  | needsFailover failed op => exact (beside_needsFailover failed op).bind fun _ => trivial
  | handleFailure failed op e => exact (beside_handleFailure failed op e).bind fun _ => trivial
  | close =>
    refine Beside.bind (Beside.bind (Steps.beside (steps_transact fun _ _ => rfl)) fun first => ?_)
      fun _ => trivial
    split
    · exact (beside_change fun _ _ => rfl).bind fun _ => outage_emptySlots.beside_locked
    · trivial

theorem beside_attended {r : Act α} (hr : r.Beside SameOutage false) :
    (attended r).Beside SameOutage false :=
  Beside.bind (beside_change fun _ _ => rfl) fun _ => hr.bind fun _ =>
    beside_leave.bind fun _ => trivial

theorem beside_whileUsed {r : Act Bool} (hr : r.Beside SameOutage false) :
    (whileUsed r).Beside SameOutage false := by
  refine beside_read.bind fun s => ?_
  split
  · trivial
  · exact beside_attended hr

theorem beside_round {get : Desk → Repeater} {put : Repeater → Desk → Desk} {g delay : Nat}
    {work : Act Bool} {again : Errand} (hwork : work.Beside SameOutage false)
    (hput : ∀ r d, SameOutage d (put r d)) :
    (Repeater.round get put drawLot g delay work again).Beside SameOutage false := by
  have hadmits : (Repeater.admits get drawLot g delay).Steps SameOutage :=
    steps_admits (R := SameOutage) (fun _ => rfl) (fun _ => rfl) get g delay
  refine Beside.bind (steps_pause delay).beside fun _ => hadmits.beside.bind fun begins => ?_
  split
  · refine hwork.bind fun more => ?_
    split
    · trivial
    · exact (beside_change fun _ d => hput _ d).bind fun _ => trivial
  · trivial

theorem beside_errand (e : Errand) : (Clerk.fresh (.errand e)).rest.Beside SameOutage false := by
  cases e with
  | reconnect =>
    refine Beside.bind ?_ fun _ => trivial
    refine (beside_moves moves_reconnectIfDue).bind fun _ => ?_
    exact (beside_change fun _ _ => rfl).bind fun _ => beside_leave
  | retry g delay =>
    simp only [Clerk.fresh, Duty.work, Errand.body]
    exact beside_round (beside_whileUsed (beside_moves moves_retryRound)) fun _ _ => rfl
  | ping g delay =>
    simp only [Clerk.fresh, Duty.work, Errand.body]
    exact beside_round (beside_whileUsed (beside_moves moves_pingRound)) fun _ _ => rfl

/-- As long as the primary is failed the first step of such work counts an operation that is a
query. -/
theorem Announces.queries {d : Desk} {step : Nat → Desk → Desk} {next : Nat → Desk → Act α}
    (h : Announces op (Routine.act step next))
    (hf : d.session.outage.primaryFailed = true) (now : Nat) :
    (step now d).session.outage.queries =
      d.session.outage.queries + if op.isQuery then 1 else 0 := by
  unfold Announces at h
  split at h
  · rename_i hquery
    obtain ⟨next', -, he⟩ := h
    cases he
    rw [if_pos hquery]
    exact Outage.queries_countQuery hf
  · rename_i hquery
    rw [if_neg hquery, (h now d).1 rfl]
    exact (UInt32.add_zero _).symm

end Act

def Clerk.Announced (c : Clerk) (holds : Bool) : Prop :=
  c.rest.Beside SameOutage holds ∨ holds = false ∧ ∃ op, c = .fresh (.request (.execute op))

theorem Clerk.Announced.goes {c c' : Clerk} {holds holds' : Bool} (h : c.Announced holds)
    (hgo : c.Goes holds c' holds') : c'.Announced holds' := by
  refine .inl ?_
  rcases h with h | ⟨rfl, op, rfl⟩
  · exact hgo.beside h
  · have h := Act.announces_request op
    unfold Act.Announces at h
    split at h
    · obtain ⟨next, hnext, hrest⟩ := h
      cases hgo with
      | act now d he =>
        cases hrest.symm.trans he
        exact hnext now d
      | wait he | lock he | start he => cases hrest.symm.trans he
    · exact hgo.beside h

theorem Request.announced (r : Request) : (Clerk.fresh (.request r)).Announced false := by
  by_cases hr : ∃ op, r = .execute op
  · obtain ⟨op, rfl⟩ := hr
    exact .inr ⟨rfl, op, rfl⟩
  · exact .inl (Act.beside_request r fun op he => hr ⟨op, he⟩)

end Failover

import Failover.Proofs.Search.Result
import Failover.Proofs.Office.Service
import Failover.Proofs.Session.RoutingKept
import Failover.Proofs.Session.Sendings

/-!
The steps of which a session's procedures under its lock are made, save its closing.
-/
namespace Failover
open Routine

namespace Deed

def isSearch : Deed → Bool
  | .search _ => true
  | _ => false

def isConnect : Deed → Bool
  | .connect _ => true
  | _ => false

def Plain (deed : Deed) : Prop := deed.isSearch = false ∧ deed.isConnect = false

class Covers (said : Deed → Prop) : Prop where
  plain : ∀ deed : Deed, deed.Plain → said deed

instance : Covers fun _ => True := ⟨fun _ _ => trivial⟩

instance : Covers Plain := ⟨fun _ => id⟩

end Deed

namespace Outage.Event

/-- Neither a failure of the primary nor a query. -/
def Minor : Event → Prop
  | .primaryFailed _ => False
  | .query => False
  | _ => True

class Covers (met : Event → Prop) : Prop where
  minor : ∀ e : Event, e.Minor → met e

class CoversFailures (met : Event → Prop) : Prop extends Covers met where
  failed : ∀ now, met (.primaryFailed now)

instance : Covers Minor := ⟨fun _ => id⟩

instance : CoversFailures fun _ => True where
  minor _ _ := trivial
  failed _ := trivial

instance : CoversFailures (· ≠ .query) where
  minor _ hm he := by
    subst he
    exact hm
  failed _ := nofun

end Outage.Event

namespace Desk

/-- What one such step does, where the deeds that may be noted and the events that the memory of
failures may meet with are given. -/
inductive Move (said : Deed → Prop) (met : Outage.Event → Prop) (d : Desk) : Desk → Prop
  | network (n : Network) : Move said met d ⟨d.session, n⟩
  | note (deed : Deed) : said deed →
      Move said met d ⟨{ d.session with journal := deed :: d.session.journal }, d.network⟩
  | outage (e : Outage.Event) : met e →
      Move said met d ⟨{ d.session with outage := d.session.outage.apply e }, d.network⟩
  | primary (h : Handle) (a : Active) : Move said met d
      ⟨{ d.session with
          primary := some h, active := a, outage := d.session.outage.resetPrimary }, d.network⟩
  | secondary (h : Handle) (a : Active) : Move said met d
      ⟨{ d.session with
          secondary := some h, active := a, outage := d.session.outage.resetSecondary }, d.network⟩
  | turn (a : Active) : Move said met d ⟨{ d.session with active := a }, d.network⟩
  | arm (r : Repeater) : d.session.closed = false →
      Move said met d ⟨{ d.session with retryLoop := r }, d.network⟩
  | stop (now : Nat) :
      Move said met d ⟨{ d.session with retryLoop := d.session.retryLoop.cancel now }, d.network⟩

theorem Move.closed {said : Deed → Prop} {met : Outage.Event → Prop} {d d' : Desk}
    (h : Move said met d d') : d'.session.closed = d.session.closed := by
  cases h <;> rfl

theorem Side.core {calls : Network → Network → Prop} {asked : Operation → Prop} {d d' : Desk}
    (h : Side calls asked d d') : d'.session.core = d.session.core := by
  cases h with
  | count => exact Session.core_countQuery d.session
  | leave =>
    unfold Session.leave
    dsimp only
    split <;> rfl
  | _ => rfl

end Desk

namespace Act
open Desk
variable {α : Type} {said : Deed → Prop} {met met' : Outage.Event → Prop}

theorem moves_read {f : Nat → Desk → α} : (read f : Act α).Steps (Move said met) :=
  steps_read fun d => .network d.network

theorem moves_onNetwork {r : NetRoutine Unit Errand α} (h : r.Steps Network.Grows) :
    (onNetwork r).Steps (Move said met) :=
  Steps.embed (fun _ n _ => .network n) h

theorem moves_updateBlacklist (f : Nat → Endpoint → Blacklist → Blacklist) (h : Handle) :
    (updateBlacklist f h).Steps (Move said met) :=
  steps_change fun _ _ => .network _

theorem moves_answering (slot : Option Handle) : (answering slot).Steps (Move said met) := by
  cases slot with
  | none => trivial
  | some h =>
    refine (moves_onNetwork (Calls.keeps_ping h).grows).bind fun x => ?_
    rcases x with e | (_ | _) <;> trivial

theorem moves_armRetry (delay : Nat) : (armRetry delay).Steps (Move said met) := by
  refine (steps_transact fun _ d => ?_).bind fun armed => steps_forM fun g => trivial
  cases hc : d.session.closed with
  | true => exact .network d.network
  | false =>
    dsimp only
    split
    · exact .network d.network
    · exact .arm _ hc

theorem moves_stopRetry : stopRetry.Steps (Move said met) :=
  (steps_change fun now _ => .stop now).bind fun _ => trivial

theorem moves_note {deed : Deed} (h : said deed) : (note deed).Steps (Move said met) :=
  steps_change fun _ _ => .note deed h

theorem moves_giveUp : giveUp.Steps (Move said met) :=
  (moves_armRetry 0).bind fun _ => trivial

section Deeds
variable [Deed.Covers said]

theorem moves_sync (source dest : Handle) : (sync source dest).Steps (Move said met) :=
  (moves_note (Deed.Covers.plain _ ⟨rfl, rfl⟩)).bind fun _ =>
    moves_onNetwork (Carryover.keeps_sync source dest).grows

theorem moves_trySync (source dest : Handle) : (trySync source dest).Steps (Move said met) :=
  (moves_sync source dest).discard

theorem moves_relaunch (op : Option Operation) (h : Handle) :
    (relaunch op h).Steps (Move said met) := by
  unfold relaunch Carryover.relaunch
  split
  · trivial
  · refine Steps.bind ?_ fun r => ?_
    · exact (moves_note (Deed.Covers.plain _ ⟨rfl, rfl⟩)).bind fun _ =>
        moves_onNetwork (Calls.keeps_invoke h _).grows
    · cases r <;> trivial

theorem moves_relaunchOnCurrent (op : Option Operation) :
    (relaunchOnCurrent op).Steps (Move said met) := by
  refine moves_read.bind fun s => ?_
  split
  · exact moves_relaunch op _
  · trivial

theorem moves_carryOn (op : Option Operation) (h : Handle) : (carryOn op h).Steps (Move said met) :=
  (moves_armRetry 0).bind fun _ => moves_relaunch op h

theorem moves_turnTo (slot : Active) (left : Option Handle) (h : Handle) :
    (turnTo slot left h).Steps (Move said met) :=
  (steps_forM fun c => moves_trySync c h).bind fun _ => steps_change fun _ _ => .turn slot

theorem moves_moveToSecondary (s : Session) : (moveToSecondary s).Steps (Move said met) := by
  unfold moveToSecondary
  split
  · rename_i h _ _ _
    refine (steps_onSome fun p => moves_sync p h).thenOk fun _ => ?_
    exact (steps_change fun _ _ => .turn _).bind fun _ =>
      moves_onNetwork (Carryover.keeps_setReadOnly h true).grows
  · trivial

theorem moves_found (role : Role) (h : Handle) : (found role h).Steps (Move said met) :=
  Finds.found ⟨fun d => .network d.network, moves_trySync,
    fun h f => moves_onNetwork (Calls.steps_updateConnection h f),
    fun h => moves_onNetwork (Carryover.keeps_setReadOnly h true).grows,
    fun h => moves_onNetwork (Calls.steps_close h), fun _ => .primary, fun _ => .secondary⟩
    role h

end Deeds

section Searches

/-- What a search does once it has been noted. -/
def scan (needs : Needs) : Act Search.Outcome := do
  Routine.change fun now d =>
    { d with
      network := d.network.updateBlacklist d.session.registry
        (·.prune now (millis d.session.options.blacklistTimeoutSec)) }
  let s ← session
  let b ← Routine.read fun _ d => d.network.blacklist s.registry
  Search.twoPass (prober s) b s.topology.hosts needs

theorem search_eq (needs : Needs) :
    search needs = note (.search needs) >>= fun _ => scan needs := rfl

/-- All that a search does is allowed if it may write down its deeds, fill the slots, and do as it
likes on the network. -/
theorem steps_scan {ok : Desk → Desk → Prop} (network : ∀ d n, ok d ⟨d.session, n⟩)
    (note : ∀ d (deed : Deed), deed.isSearch = false →
      ok d ⟨{ d.session with journal := deed :: d.session.journal }, d.network⟩)
    (primary : ∀ d h a, ok d
      ⟨{ d.session with
          primary := some h, active := a, outage := d.session.outage.resetPrimary }, d.network⟩)
    (secondary : ∀ d h a, ok d
      ⟨{ d.session with
          secondary := some h, active := a, outage := d.session.outage.resetSecondary }, d.network⟩)
    (needs : Needs) : (scan needs).Steps ok := by
  have hread {β : Type} {f : Nat → Desk → β} : (read f : Act β).Steps ok :=
    steps_read fun d => network d d.network
  have hnote (deed : Deed) (h : deed.isSearch = false) : (Act.note deed).Steps ok :=
    steps_change fun _ d => note d deed h
  have hnetwork {β : Type} {r : NetRoutine Unit Errand β} (hr : r.Steps Network.Grows) :
      (onNetwork r).Steps ok := Steps.embed (fun d n _ => network d n) hr
  refine Steps.bind (steps_change fun _ d => network d _) fun _ => ?_
  refine hread.bind fun s => hread.bind fun b => ?_
  refine Search.steps_twoPass ⟨fun size => ?_, fun h => ?_, fun c => ?_, fun c => ?_, fun h => ?_,
    fun role c => ?_⟩ b s.topology.hosts needs
  · exact hnetwork (steps_transact fun _ _ => Nat.le_refl _)
  · exact (hnote (.connect h) rfl).bind fun _ => hnetwork (Calls.steps_connect h)
  · exact hnetwork (Calls.keeps_role _ c).grows
  · exact hnetwork (Calls.steps_close c)
  · exact hnetwork (steps_change fun _ n => by simp [Network.Grows])
  · refine Finds.found ⟨fun d => network d d.network, fun a b => ?_, fun h f => ?_, fun h => ?_,
      fun h => ?_, primary, secondary⟩ role c
    · exact ((hnote (.sync a b) rfl).bind fun _ =>
        hnetwork (Carryover.keeps_sync a b).grows).discard
    · exact hnetwork (Calls.steps_updateConnection h f)
    · exact hnetwork (Carryover.keeps_setReadOnly h true).grows
    · exact hnetwork (Calls.steps_close h)

theorem steps_search {ok : Desk → Desk → Prop} (network : ∀ d n, ok d ⟨d.session, n⟩)
    (note : ∀ d deed, ok d ⟨{ d.session with journal := deed :: d.session.journal }, d.network⟩)
    (primary : ∀ d h a, ok d
      ⟨{ d.session with
          primary := some h, active := a, outage := d.session.outage.resetPrimary }, d.network⟩)
    (secondary : ∀ d h a, ok d
      ⟨{ d.session with
          secondary := some h, active := a, outage := d.session.outage.resetSecondary }, d.network⟩)
    (needs : Needs) : (search needs).Steps ok :=
  Steps.bind (steps_change fun _ d => note d _) fun _ =>
    steps_scan network (fun d deed _ => note d deed) primary secondary needs

theorem moves_search (needs : Needs) : (search needs).Steps (Move (fun _ => True) met) :=
  steps_search (fun _ n => .network n) (fun _ deed => .note deed trivial)
    (fun _ => .primary) (fun _ => .secondary) needs

theorem moves_seek (needs : Needs) : (seek needs).Steps (Move (fun _ => True) met) := by
  unfold seek
  split
  · trivial
  · exact (moves_search needs).bind fun _ => trivial

end Searches

variable [Outage.Event.Covers met] [Outage.Event.CoversFailures met']

theorem moves_updateOutage (e : Nat → Outage.Event) (he : ∀ now, (e now).Minor) :
    (updateOutage fun now o => o.apply (e now)).Steps (Move said met) :=
  steps_change fun now _ => .outage (e now) (Outage.Event.Covers.minor _ (he now))

theorem moves_markPrimary : markPrimary.Steps (Move said met') :=
  steps_transact fun now _ =>
    .outage (.primaryFailed now) (Outage.Event.CoversFailures.failed now)

theorem moves_markSecondary : markSecondary.Steps (Move said met) :=
  steps_transact fun now _ => .outage (.secondaryFailed now) (Outage.Event.Covers.minor _ trivial)

theorem moves_failPrimary (h : Handle) : (failPrimary h).Steps (Move said met') := by
  refine moves_markPrimary.bind fun fresh => ?_
  split
  · exact moves_updateBlacklist _ h
  · trivial

theorem moves_failSecondary (h : Handle) : (failSecondary h).Steps (Move said met) := by
  refine moves_markSecondary.bind fun fresh => ?_
  split
  · exact moves_updateBlacklist _ h
  · trivial

theorem moves_primaryRecovered (h : Handle) : (primaryRecovered h).Steps (Move said met) :=
  (moves_updateOutage (fun _ => .primaryFound) fun _ => trivial).bind fun _ =>
    moves_updateBlacklist _ h

theorem moves_secondaryRecovered (h : Handle) : (secondaryRecovered h).Steps (Move said met) :=
  (moves_updateOutage (fun _ => .secondaryFound) fun _ => trivial).bind fun _ =>
    moves_updateBlacklist _ h

section Recovery

theorem moves_reconnectSingle : reconnectSingle.Steps (Move (fun _ => True) met) :=
  (moves_updateOutage .attempt fun _ => trivial).bind fun _ => moves_seek _

theorem moves_reconnectReplicated : reconnectReplicated.Steps (Move (fun _ => True) met) := by
  refine (moves_updateOutage .attempt fun _ => trivial).bind fun _ => moves_read.bind fun s => ?_
  split
  · trivial
  · exact moves_seek _

theorem moves_reconnect : reconnect.Steps (Move (fun _ => True) met) := by
  refine moves_read.bind fun s => ?_
  split
  · exact moves_reconnectSingle
  · exact moves_reconnectReplicated

theorem moves_replaceSingle (op : Option Operation) (failed : Option Handle) :
    (replaceSingle op failed).Steps (Move (fun _ => True) met) := by
  have hsearch : (searchSingle op failed).Steps (Move (fun _ => True) met) := by
    refine moves_read.bind fun busy => ?_
    split
    · exact moves_giveUp
    · refine moves_reconnectSingle.bind fun x => ?_
      cases x with
      | ok _ => exact moves_relaunchOnCurrent op
      | error e => exact moves_giveUp
  refine moves_read.bind fun s => ?_
  split
  · exact steps_when (steps_pause _) hsearch
  · exact moves_giveUp

theorem moves_primaryFailSingle (op : Option Operation) :
    (primaryFailSingle op).Steps (Move (fun _ => True) met') := by
  refine moves_read.bind fun s => (moves_answering _).bind fun x => ?_
  cases x with
  | some h => exact (moves_primaryRecovered h).bind fun _ => moves_relaunch op h
  | none => exact (steps_forM moves_failPrimary).bind fun _ => moves_replaceSingle op _

theorem moves_fallBackToSecondary [Deed.Covers said] (op : Option Operation) (failed : Option Handle) :
    (fallBackToSecondary op failed).Steps (Move said met) := by
  refine moves_read.bind fun s => ?_
  split
  · exact moves_giveUp
  · split
    · exact moves_giveUp
    · rename_i h _
      refine (moves_onNetwork (Calls.keeps_ping h).grows).bind fun x => ?_
      split
      · exact steps_when (moves_turnTo _ _ h) (moves_carryOn op h)
      · exact moves_giveUp
      · exact (moves_failSecondary h).bind fun _ => moves_giveUp

theorem moves_replacePrimary (op : Option Operation) (failed : Option Handle) :
    (replacePrimary op failed).Steps (Move (fun _ => True) met) := by
  refine moves_read.bind fun s => moves_read.bind fun busy => ?_
  split
  · refine moves_reconnectReplicated.discard.bind fun _ => moves_read.bind fun s => ?_
    split
    · exact moves_fallBackToSecondary op failed
    · exact moves_relaunchOnCurrent op
  · exact moves_fallBackToSecondary op failed

theorem moves_primaryFailReplicated (op : Option Operation) (probe : Bool) :
    (primaryFailReplicated op probe).Steps (Move (fun _ => True) met') := by
  refine moves_read.bind fun s => (moves_answering _).bind fun x => ?_
  cases x with
  | some h => exact (moves_primaryRecovered h).bind fun _ => moves_relaunchOnCurrent op
  | none => exact (steps_forM moves_failPrimary).bind fun _ => moves_replacePrimary op _

theorem moves_replaceSecondary (op : Option Operation) :
    (replaceSecondary op).Steps (Move (fun _ => True) met) := by
  refine moves_read.bind fun s => ?_
  split
  · refine moves_reconnectReplicated.discard.bind fun _ => moves_read.bind fun s => ?_
    refine steps_when (moves_armRetry _) ?_
    split
    · trivial
    · exact moves_relaunchOnCurrent op
  · exact moves_giveUp

theorem moves_secondaryFailReplicated (op : Option Operation) :
    (secondaryFailReplicated op).Steps (Move (fun _ => True) met') := by
  refine moves_read.bind fun s => (moves_answering _).bind fun x => ?_
  cases x with
  | some h => exact (moves_secondaryRecovered h).bind fun _ => moves_relaunchOnCurrent op
  | none =>
    refine (steps_forM moves_failSecondary).bind fun _ => moves_read.bind fun s' => ?_
    split
    · exact moves_replaceSecondary op
    · split
      · exact moves_replaceSecondary op
      · rename_i p _
        refine (moves_onNetwork (Calls.keeps_ping p).grows).bind fun x => ?_
        split
        · exact (moves_turnTo _ _ p).bind fun _ => moves_carryOn op p
        · exact moves_replaceSecondary op
        · exact (moves_failPrimary p).bind fun _ => moves_replaceSecondary op

theorem moves_recordFailure (failed : Handle) (op : Option Operation) :
    (recordFailure failed op).Steps (Move said fun _ => True) := by
  refine moves_markPrimary.bind fun fresh => ?_
  dsimp only
  split
  · exact steps_when (steps_change fun _ _ => .outage .query trivial)
      (moves_updateBlacklist _ failed)
  · trivial

theorem moves_handleFailover (failed : Handle) (op : Option Operation) :
    (handleFailover failed op).Steps (Move (fun _ => True) fun _ => True) := by
  have hrecover : (recover failed op).Steps (Move (fun _ => True) fun _ => True) := by
    refine moves_read.bind fun s => ?_
    split
    · refine (moves_recordFailure failed op).bind fun _ => ?_
      split
      · exact moves_primaryFailSingle op
      · exact moves_primaryFailReplicated op true
    · refine (moves_failSecondary failed).bind fun _ => ?_
      split
      · trivial
      · exact moves_secondaryFailReplicated op
  refine moves_read.bind fun s => ?_
  split
  · trivial
  · split
    · exact hrecover
    · exact moves_relaunch op _

end Recovery

section Routing

theorem moves_switchSingle (readOnly : Bool) :
    (switchSingle readOnly).Steps (Move said met) := by
  refine moves_read.bind fun s => moves_read.bind fun busy => ?_
  split
  · trivial
  · refine (steps_onSome fun h => ?_).thenOk fun _ =>
      (moves_updateOutage (fun _ => .readOnly readOnly) fun _ => trivial).bind fun _ => trivial
    refine (moves_onNetwork (Carryover.keeps_setReadOnly h readOnly).grows).thenOk fun _ => ?_
    exact (moves_onNetwork (Calls.steps_updateConnection h _)).bind fun _ => trivial

theorem moves_awaitPrimary : awaitPrimary.Steps (Move (fun _ => True) met) := by
  have hgiveUp : (do
      armRetry retryPeriod
      return .error .noPrimaryAvailable :
        Act (Except Error Unit)).Steps (Move (fun _ => True) met) :=
    (moves_armRetry _).bind fun _ => trivial
  refine moves_read.bind fun s => ?_
  split
  · refine moves_reconnectReplicated.bind fun x => ?_
    cases x with
    | ok _ => trivial
    | error e =>
      refine moves_read.bind fun s => ?_
      split
      · trivial
      · exact hgiveUp
  · exact hgiveUp

theorem moves_moveToPrimary (s : Session) : (moveToPrimary s).Steps (Move (fun _ => True) met) := by
  unfold moveToPrimary
  split
  · trivial
  · rename_i p _ _ _
    refine (steps_onSome fun h => moves_sync h p).thenOk fun _ => ?_
    exact (steps_change fun _ _ => .turn _).bind fun _ => trivial
  · exact moves_awaitPrimary

theorem moves_switchReadOnly (readOnly : Bool) :
    (switchReadOnly readOnly).Steps (Move (fun _ => True) met) := by
  refine moves_read.bind fun s => ?_
  split
  · exact moves_switchSingle readOnly
  · refine moves_read.bind fun s => ?_
    split
    · trivial
    · refine moves_read.bind fun busy => ?_
      split
      · trivial
      · refine (moves_updateOutage (fun _ => .readOnly readOnly) fun _ => trivial).bind fun _ => ?_
        split
        · exact moves_moveToSecondary s
        · exact moves_moveToPrimary s

end Routing

section Background

theorem moves_retryRound : retryRound.Steps (Move (fun _ => True) met) := by
  have hagain : retryAgain.Steps (Move (fun _ => True) met) := by
    refine moves_read.bind fun s => ?_
    split
    · exact moves_stopRetry
    · trivial
  refine moves_read.bind fun s => ?_
  split
  · exact moves_stopRetry
  · refine moves_read.bind fun due => ?_
    split
    · refine moves_reconnect.bind fun x => ?_
      cases x with
      | ok _ => exact moves_stopRetry
      | error e => exact hagain
    · exact hagain

theorem ensures_anything {others : Desk → Desk → Prop} {t : List (Change Desk)} {d : Desk}
    {r : Act α} (hr : r.Steps (Move (fun _ => True) fun _ => True)) :
    r.Ensures (anything others) (fun _ _ _ => True) t d :=
  hr.ensures (fun _ _ _ _ _ _ => trivial) (fun _ _ _ _ _ _ => ⟨trivial, trivial⟩) trivial

theorem stopped_retryRound {others : Desk → Desk → Prop} {t : List (Change Desk)} {d : Desk} :
    retryRound.Ensures (anything others)
      (fun more _ d => more = false → d.session.retryLoop.armed = false) t d := by
  have hstop (t : List (Change Desk)) (d : Desk) : stopRetry.Ensures (anything others)
      (fun more _ d => more = false → d.session.retryLoop.armed = false) t d :=
    fun now => ⟨trivial, fun _ => Repeater.armed_cancel now _⟩
  have hagain (t : List (Change Desk)) (d : Desk) : retryAgain.Ensures (anything others)
      (fun more _ d => more = false → d.session.retryLoop.armed = false) t d := by
    refine ensures_bind.2 (ensures_read.2 fun now => ⟨trivial, ?_⟩)
    split
    · exact hstop _ _
    · exact nofun
  refine ensures_bind.2 (ensures_read.2 fun now => ⟨trivial, ?_⟩)
  split
  · exact hstop _ _
  · refine ensures_bind.2 (ensures_read.2 fun now => ⟨trivial, ?_⟩)
    split
    · refine (ensures_anything moves_reconnect).bind fun x t d _ => ?_
      cases x with
      | ok _ => exact hstop t d
      | error e => exact hagain t d
    · exact hagain _ _

theorem moves_checkPrimary (s : Session) : (checkPrimary s).Steps (Move (fun _ => True) met') := by
  unfold checkPrimary
  split
  · rename_i p _ _
    refine (moves_onNetwork (Health.keeps_ofPrimaryWithin _ p).grows).bind fun r => ?_
    split
    · trivial
    · exact (moves_failPrimary p).bind fun _ => (moves_primaryFailReplicated none false).discard
  · trivial

theorem moves_pingRound : pingRound.Steps (Move (fun _ => True) met') := by
  refine moves_read.bind fun s => ?_
  split
  · trivial
  · exact (moves_checkPrimary s).bind fun _ => trivial

theorem moves_reconnectIfDue : reconnectIfDue.Steps (Move (fun _ => True) met) := by
  refine moves_read.bind fun s => moves_read.bind fun due => ?_
  split
  · exact moves_reconnect.discard
  · trivial

theorem outage_emptySlots :
    emptySlots.Steps fun d d' => d'.session.outage = d.session.outage := by
  have hclose (x : Handle) :
      (closeIfOpen x).Steps fun d d' => d'.session.outage = d.session.outage :=
    fun _ _ => ⟨rfl, trivial⟩
  refine Steps.bind (steps_read fun _ => rfl) fun s => ?_
  refine Steps.bind (steps_change fun _ _ => rfl) fun _ => ?_
  exact (steps_forM hclose).bind fun _ => steps_forM hclose

end Background

section Opening

/-- What the first search does under the lock. -/
def fillSlots : Act (Except Error Unit) := do
  let s ← session
  let o ← search (match s.policy with | .single => ⟨true, false⟩ | .replicated => ⟨true, true⟩)
  match o.result with
  | .ok _ => return .ok ()
  | .error e =>
    let s ← session
    if s.primary.isNone && s.secondary.isNone then return .error e
    else
      if o.needs.primary then
        discard markPrimary
        update fun s => { s with active := .secondary }
      if o.needs.replica then discard markSecondary
      armRetry retryPeriod
      return .ok ()

theorem moves_fillSlots : fillSlots.Steps (Move (fun _ => True) met') := by
  have harm : (do
      armRetry retryPeriod
      return .ok () : Act (Except Error Unit)).Steps (Move (fun _ => True) met') :=
    (moves_armRetry _).bind fun _ => trivial
  refine moves_read.bind fun s => (moves_search _).bind fun o => ?_
  split
  · trivial
  · refine moves_read.bind fun s => ?_
    split
    · trivial
    · refine steps_when (moves_markPrimary.discard.bind fun _ => steps_change fun _ _ => .turn _) ?_
      exact steps_when moves_markSecondary.discard harm

end Opening

end Act
end Failover

import Failover.Proofs.Office.ServingSlots
import Failover.Proofs.Network.CallEffects
import Failover.Proofs.Outage.Memory

/-!
A fallback from one end to the other: the primary breaks under an operation, and the session turns
to its good secondary. The secondary's server is sent the settings, and then the operation where
that may be sent twice; no other server is sent anything.
-/
namespace Failover
open Desk Routine Network
open Carryover (Replay)

theorem Connection.lost_answer (s : Server) (c : Connection) (sql : String) :
    Act.lost (c.answer s sql).result = false := by
  unfold answer
  dsimp only
  split
  · rfl
  · split <;> rfl

theorem Connection.lost_answerAll (s : Server) (c : Connection) (statements : List String)
    (total : QueryResult) : Act.lost (c.answerAll s statements total).result = false := by
  induction statements generalizing c total with
  | nil => rfl
  | cons sql rest ih =>
    have hfirst := c.lost_answer s sql
    unfold answerAll
    generalize c.answer s sql = first at hfirst ⊢
    dsimp only
    cases hr : first.result with
    | error e =>
      rw [hr] at hfirst
      exact hfirst
    | ok r => exact ih first.connection (Calls.combine total r)

theorem Connection.lost_perform (s : Server) (c : Connection) (op : Operation) :
    Act.lost (c.perform s op).result = false := by
  cases op with
  | query sql =>
    dsimp only [perform]
    exact c.lost_answer s sql
  | batch statements =>
    dsimp only [perform]
    exact c.lost_answerAll s statements .empty
  | setAutocommit enabled =>
    dsimp only [perform]
    exact c.lost_answer s _
  | _ => rfl

def Session.Writes (s s' : Session) : Prop := s' = { s with journal := s'.journal }

theorem Session.Writes.same {s s' : Session} {β : Type} (h : s.Writes s') (f : Session → β)
    (hf : ∀ (s : Session) journal, f { s with journal } = f s) : f s' = f s :=
  (congrArg f h).trans (hf s _)

namespace Act
variable {α : Type} {p h : Handle} {n₀ : Network} {l : List String} {c : Connection}
  {s : Server} {op : Operation} {t : List (Change Desk)} {d : Desk}

section Calls

theorem unshared_onNetwork {r : NetRoutine Unit Errand α} {Q : α → Network → Prop}
    (hr : ∀ t, r.Ensures unshared (fun a _ n => Q a n) t d.network) :
    (onNetwork r).Ensures unshared (fun a _ d' => Q a d'.network ∧ d'.session = d.session) t d := by
  refine Ensures.mono (Ensures.embed (F := fun _ d' => d'.session = d.session) (fun _ _ => rfl)
    ?_ ?_ ?_ rfl (hr _)) fun _ _ _ hd => hd
  · exact fun _ _ hf => hf
  · exact fun _ _ _ _ _ hf => hf.elim
  · exact fun _ _ _ _ hs _ => ⟨trivial, hs⟩

theorem unshared_noted {r : NetRoutine Unit Errand α} {Q : α → Network → Prop} (deed : Deed)
    (hr : ∀ t, r.Ensures unshared (fun a _ n => Q a n) t d.network) :
    (note deed >>= fun _ => onNetwork r).Ensures unshared
      (fun a _ d' => Q a d'.network ∧ d.session.Writes d'.session) t d := by
  refine ensures_bind.2 (ensures_change.2 fun now => ⟨trivial, ?_⟩)
  refine (unshared_onNetwork (d := ⟨{ d.session with journal := deed :: d.session.journal },
    d.network⟩) hr).mono fun a _ d' hd => ⟨hd.1, ?_⟩
  rw [Session.Writes, hd.2]

theorem performed_invoke (hn : Performed h n₀ l c d.network) (hh : h < n₀.connections.size)
    (hs : n₀.server h = .ok s) (op : Operation) :
    (invoke h op).Ensures unshared (fun x _ d' => (x = (c.perform s op).result ∧
      Performed h n₀ (l ++ (c.perform s op).sent) (c.perform s op).connection d'.network) ∧
      d.session.Writes d'.session) t d :=
  unshared_noted _ fun _ => Calls.performed_invoke hn hh hs op

theorem performed_trySync {a : Handle} (hn : Performed h n₀ l c d.network)
    (hh : h < n₀.connections.size) (hs : n₀.server h = .ok s) (ha : a ≠ h) :
    (trySync a h).Ensures unshared (fun _ _ d' =>
      Performed h n₀ (l ++ (n₀.connection a).carried c) ((n₀.connection a).adopt c) d'.network ∧
      d.session.Writes d'.session) t d :=
  Ensures.discard ((unshared_noted _ fun _ => Carryover.performed_sync hn hh hs ha).mono
    fun _ _ _ hd => ⟨hd.1.2, hd.2⟩)

theorem performed_ping (hn : Performed h n₀ l c d.network) (hs : n₀.server h = .ok s) :
    (onNetwork (Calls.ping h)).Ensures unshared (fun x _ d' =>
      (x = .ok true ∧ Performed h n₀ l c d'.network) ∧ d'.session = d.session) t d :=
  unshared_onNetwork fun _ => Calls.performed_ping hn hs

theorem performed_relaunch (hn : Performed h n₀ l c d.network) (hh : h < n₀.connections.size)
    (hs : n₀.server h = .ok s) (op : Operation) (e : Error) :
    (relaunch (some op) h).Ensures unshared (fun x _ d' =>
      x.result e = (if op.isReplayable then (c.perform s op).result else .error e) ∧
      (∃ c', Performed h n₀ (l ++ if op.isReplayable then (c.perform s op).sent else []) c'
        d'.network) ∧
      d.session.Writes d'.session) t d := by
  unfold relaunch Carryover.relaunch
  by_cases hop : op.isReplayable = true
  · rw [Option.filter_some, if_pos hop]
    simp only [hop, if_true]
    refine (performed_invoke hn hh hs op).bind fun x t d' hd => ?_
    obtain ⟨⟨hx, hn⟩, hsession⟩ := hd
    have hlost := c.lost_perform s op
    rw [← hx] at hlost ⊢
    cases x with
    | error e' =>
      have he : e'.isConnectivity = false := hlost
      dsimp only
      rw [he]
      exact ⟨rfl, ⟨_, hn⟩, hsession⟩
    | ok r => exact ⟨rfl, ⟨_, hn⟩, hsession⟩
  · rw [Option.filter_some, if_neg hop, if_neg hop, if_neg hop, List.append_nil]
    exact ⟨rfl, ⟨c, hn⟩, rfl⟩

theorem unaltered_invoke (hn : d.network.Gone p) (op : Operation) :
    (invoke p op).Ensures unshared (fun x _ d' =>
      ((∃ e, x = .error e) → Unaltered d.network d'.network) ∧ d.session.Writes d'.session) t d :=
  unshared_noted _ fun _ => Calls.unaltered_invoke hn op

theorem unaltered_answering (hn : d.network.Gone p) :
    (answering (some p)).Ensures unshared (fun x _ d' =>
      x = none ∧ Unaltered d.network d'.network ∧ d'.session = d.session) t d := by
  refine (unshared_onNetwork fun _ => Calls.unaltered_ping hn).bind fun x t d' hd => ?_
  obtain ⟨⟨hx, hn⟩, hsession⟩ := hd
  split
  · exact (hx rfl).elim
  · exact ⟨rfl, hn, hsession⟩

end Calls

theorem unshared_prepare (hgood : d.session.outage.anyFailed = false) (op : Operation) :
    (prepare op).Ensures unshared (fun _ _ d' => d' = d) t d := by
  have hprimary : d.session.outage.primaryFailed = false := by
    simp only [Outage.anyFailed, Bool.or_eq_false_iff] at hgood
    exact hgood.1
  unfold prepare
  refine ensures_when (P := fun _ d' => d' = d) (fun _ => ?_) (fun _ => rfl) fun t' d' hd => ?_
  · refine ensures_change.2 fun now => ⟨trivial, ?_⟩
    have hcount : d.session.outage.countQuery = d.session.outage := by
      rw [Outage.countQuery, hprimary]
      rfl
    dsimp only
    rw [hcount]
  · subst hd
    refine ensures_bind.2 (ensures_read.2 fun now => ⟨trivial, ?_⟩)
    refine ensures_bind.2 (ensures_read.2 fun now' => ⟨trivial, ?_⟩)
    split
    · rename_i hdue
      simp only [Bool.and_eq_true, decide_eq_true_eq] at hdue
      obtain ⟨hp, hdue⟩ := hdue
      rw [Desk.shouldReconnect, hp] at hdue
      simp [Outage.shouldReconnectReplicated, hgood] at hdue
    · rfl

/-- The failure of the primary has been recorded, and nothing else has come of it yet. -/
structure Recorded (p : Handle) (op : Operation) (d₀ d : Desk) : Prop where
  session : d.session =
    { d₀.session with journal := d.session.journal, outage := d.session.outage }
  failed : d.session.outage.primaryFailed = true
  good : d.session.outage.secondaryFailed = false
  queries : d.session.outage.queries = if op.isQuery then d₀.session.outage.queries + 1 else
    d₀.session.outage.queries
  excluded : (d.network.blacklist d₀.session.registry).contains
    (d₀.network.connection p).host.endpoint = true
  connections : d.network.connections = d₀.network.connections
  cluster : d.network.cluster = d₀.network.cluster
  calm : ∀ e, d₀.network.Untroubled e → d.network.Untroubled e

variable {d₀ : Desk}

theorem Recorded.pass {d' : Desk} (h : Recorded p op d₀ d) (hn : Unaltered d.network d'.network)
    (hs : d'.session = d.session) : Recorded p op d₀ d' := by
  refine ⟨?_, ?_, ?_, ?_, ?_, hn.connections.trans h.connections, hn.cluster.trans h.cluster,
    fun e he => hn.calm e (h.calm e he)⟩
  · rw [hs]
    exact h.session
  · rw [hs, h.failed]
  · rw [hs, h.good]
  · rw [hs, h.queries]
  · rw [hn.blacklist, h.excluded]

/-- The failure of a primary that was good is recorded, and a query counted. -/
theorem unshared_recordFailure (hgood : d₀.session.outage.anyFailed = false)
    (hn : Unaltered d₀.network d.network) (hs : d₀.session.Writes d.session) (op : Operation) :
    (recordFailure p (some op)).Ensures unshared (fun _ _ d' => Recorded p op d₀ d') t d := by
  have houtage : d.session.outage = d₀.session.outage := hs.same (·.outage) fun _ _ => rfl
  simp only [Outage.anyFailed, Bool.or_eq_false_iff, ← houtage] at hgood
  obtain ⟨hprimary, hsecondary⟩ := hgood
  have hmarked (now : Nat) : d.session.outage.markPrimary now =
      { d.session.outage with primarySince := some now, attempts := 0 } := by
    rw [Outage.markPrimary, hprimary]
    rfl
  refine ensures_bind.2 (ensures_transact.2 fun now => ⟨trivial, ?_⟩)
  dsimp only
  rw [hprimary, hmarked, Bool.not_false, if_pos rfl]
  refine ensures_when (P := fun _ (d' : Desk) => d'.network = d.network ∧
      d'.session = { d₀.session with journal := d'.session.journal, outage := d'.session.outage } ∧
      d'.session.outage.primaryFailed = true ∧ d'.session.outage.secondaryFailed = false ∧
      d'.session.outage.queries = if op.isQuery then d₀.session.outage.queries + 1 else
        d₀.session.outage.queries) (fun hquery => ?_) (fun hquery => ?_) fun t' d' hd => ?_
  · have hquery : op.isQuery = true := hquery
    refine ensures_change.2 fun now' => ⟨trivial, rfl, ?_, rfl, hsecondary, ?_⟩
    · rw [hs]
    · rw [if_pos hquery, ← houtage]
      rfl
  · have hquery : ¬op.isQuery = true := hquery
    refine ⟨rfl, ?_, rfl, hsecondary, ?_⟩
    · rw [hs]
    · rw [if_neg hquery, ← houtage]
  · obtain ⟨hnetwork, hsession, hfailed, hsecondary, hqueries⟩ := hd
    have hregistry : d'.session.registry = d₀.session.registry := by rw [hsession]
    refine ensures_change.2 fun now' => ⟨trivial, ?_⟩
    rw [hregistry, hnetwork, hn.connection]
    refine ⟨hsession, hfailed, hsecondary, hqueries, ?_, ?_, ?_, fun e he => ?_⟩
    · rw [blacklist_updateBlacklist]
      exact Blacklist.contains_add_self _ _ _
    · rw [connections_updateBlacklist, hn.connections]
    · rw [cluster_updateBlacklist, hn.cluster]
    · exact untroubled_updateBlacklist.2 (hn.calm e he)

theorem unshared_armRetry (hopen : d.session.closed = false) (delay : Nat) :
    (armRetry delay).Ensures unshared (fun _ _ d' => d'.network = d.network ∧
      d'.session.retryLoop.armed = true ∧
      d'.session = { d.session with retryLoop := d'.session.retryLoop }) t d := by
  refine ensures_bind.2 (ensures_transact.2 fun now => ⟨trivial, ?_⟩)
  dsimp only
  rw [if_neg (by simp [hopen]), Repeater.arm?]
  by_cases harmed : d.session.retryLoop.armed = true
  · rw [if_pos harmed]
    exact ⟨rfl, harmed, rfl⟩
  · rw [if_neg harmed]
    exact ⟨rfl, rfl, rfl⟩

theorem performed_turnTo {a : Handle} (hn : Performed h n₀ l c d.network)
    (hh : h < n₀.connections.size) (hs : n₀.server h = .ok s) (ha : a ≠ h) :
    (turnTo .secondary (some a) h).Ensures unshared (fun _ _ d' =>
      Performed h n₀ (l ++ (n₀.connection a).carried c) ((n₀.connection a).adopt c) d'.network ∧
      d'.session = { d.session with journal := d'.session.journal, active := .secondary }) t d := by
  refine Ensures.bind (performed_trySync hn hh hs ha) fun _ t d' hx => ?_
  obtain ⟨hn, hsession⟩ := hx
  refine ensures_change.2 fun now => ⟨trivial, hn, ?_⟩
  rw [hsession]

theorem performed_carryOn (hn : Performed h n₀ l c d.network) (hh : h < n₀.connections.size)
    (hs : n₀.server h = .ok s) (hopen : d.session.closed = false) (op : Operation) (e : Error) :
    (carryOn (some op) h).Ensures unshared (fun x _ d' =>
      x.result e = (if op.isReplayable then (c.perform s op).result else .error e) ∧
      (∃ c', Performed h n₀ (l ++ if op.isReplayable then (c.perform s op).sent else []) c'
        d'.network) ∧
      d'.session.retryLoop.armed = true ∧
      d'.session = { d.session with
        journal := d'.session.journal
        retryLoop := d'.session.retryLoop }) t d := by
  refine (unshared_armRetry hopen 0).bind fun _ t d' hx => ?_
  obtain ⟨hnetwork, harmed, hloop⟩ := hx
  refine (performed_relaunch (hnetwork ▸ hn) hh hs op e).mono fun x t d'' hy => ?_
  obtain ⟨hresult, hperformed, hsession⟩ := hy
  refine ⟨hresult, hperformed, ?_, ?_⟩
  · rw [hsession.same (·.retryLoop) fun _ _ => rfl, harmed]
  · rw [hsession, hloop]

theorem unshared_failPrimary (hfailed : d.session.outage.primaryFailed = true) :
    (failPrimary p).Ensures unshared (fun _ _ d' => d' = d) t d := by
  refine ensures_bind.2 (ensures_transact.2 fun now => ⟨trivial, ?_⟩)
  dsimp only
  rw [Outage.markPrimary, if_pos hfailed, hfailed, if_neg (by simp)]
  exact rfl

/-- The session has turned from its primary, which is failed from then on, to its secondary, whose
server has been sent these statements. No other server has been sent any. -/
structure FellBack (p h : Handle) (queries : UInt32) (sent : List String) (d₀ d : Desk) : Prop where
  active : d.session.active = .secondary
  primary : d.session.primary = d₀.session.primary
  secondary : d.session.secondary = d₀.session.secondary
  failed : d.session.outage.primaryFailed = true
  good : d.session.outage.secondaryFailed = false
  excluded : (d.network.blacklist d₀.session.registry).contains
    (d₀.network.connection p).host.endpoint = true
  armed : d.session.retryLoop.armed = true
  queries : d.session.outage.queries = queries
  cluster : d.network.cluster =
    d₀.network.cluster.update (d₀.network.connection h).host.endpoint (·.noting sent)

/-- What it takes to fall back: an open session that is served by its primary, and that does not
look for another at once, with a secondary that is good and usable. -/
structure Ready (p h : Handle) (d : Desk) : Prop where
  opened : d.session.closed = false
  policy : d.session.policy = .replicated
  patient : d.session.options.autoReconnect = false
  active : d.session.active = .primary
  good : d.session.outage.anyFailed = false
  primary : d.session.primary = some p
  secondary : d.session.secondary = some h
  gone : d.network.Gone p
  exists_secondary : h < d.network.connections.size
  usable : d.network.Usable h

def sequel (p h : Handle) (s : Server) (op : Operation) (n : Network) : Reply :=
  ((n.connection p).adopt (n.connection h)).perform s op

/-- The session has fallen back, and the caller gets what came of the operation where that was sent
again, else the error that came first. -/
def Recovered (p h : Handle) (s : Server) (op : Operation) (e : Error) (d₀ : Desk)
    (y : Except Error QueryResult) (d : Desk) : Prop :=
  y = (if op.isReplayable then (sequel p h s op d₀.network).result else .error e) ∧
    FellBack p h
      (if op.isQuery then d₀.session.outage.queries + 1 else d₀.session.outage.queries)
      ((d₀.network.connection p).carried (d₀.network.connection h) ++
        if op.isReplayable then (sequel p h s op d₀.network).sent else []) d₀ d

theorem Ready.ne (hd : Ready p h d) : p ≠ h := by
  rintro rfl
  obtain ⟨s, hs⟩ := hd.usable.server
  obtain ⟨e, he⟩ := hd.gone
  rw [hs] at he
  cases he

theorem Recorded.connection (hrec : Recorded p op d₀ d) (x : Handle) :
    d.network.connection x = d₀.network.connection x := by
  rw [Network.connection, Network.connection, hrec.connections]

theorem Recorded.server (hrec : Recorded p op d₀ d) (x : Handle) :
    d.network.server x = d₀.network.server x := by
  rw [Network.server, Network.server, hrec.connection, hrec.cluster]

theorem Recorded.performed (hrec : Recorded p op d₀ d) (hd : Ready p h d₀) :
    Performed h d.network [] (d₀.network.connection h) d.network := by
  have hcalm := hrec.calm _ (untroubled_iff.2 hd.usable.undisturbed)
  rw [← hrec.connection] at hcalm ⊢
  exact performed_nothing hcalm

/-- Once the failure is recorded the session turns to its secondary, and carries on there. -/
theorem unshared_fallBack (hd : Ready p h d₀) (hs : d₀.network.server h = .ok s)
    (hrec : Recorded p op d₀ d) (e : Error) :
    (fallBackToSecondary (some op) (some p)).Ensures unshared (fun x _ d' =>
      Recovered p h s op e d₀ (x.result e) d') t d := by
  have hh : h < d.network.connections.size := by
    rw [hrec.connections]
    exact hd.exists_secondary
  have hserver : d.network.server h = .ok s := (hrec.server h).trans hs
  have hactive : d.session.active = .primary := by rw [hrec.session, hd.active]
  have hsecondary : d.session.secondary = some h := by rw [hrec.session, hd.secondary]
  have hopen : d.session.closed = false := by rw [hrec.session, hd.opened]
  refine ensures_bind.2 (ensures_read.2 fun now => ⟨trivial, ?_⟩)
  rw [hrec.good, hsecondary, if_neg (by simp)]
  refine (performed_ping (hrec.performed hd) hserver).bind fun x t₁ d₁ hx => ?_
  obtain ⟨⟨rfl, hn₁⟩, hs₁⟩ := hx
  dsimp only
  rw [hactive, if_pos rfl]
  refine (performed_turnTo hn₁ hh hserver hd.ne).bind fun _ t₂ d₂ hx => ?_
  obtain ⟨hn₂, hs₂⟩ := hx
  have hopen₂ : d₂.session.closed = false := by rw [hs₂, hs₁, hopen]
  refine (performed_carryOn hn₂ hh hserver hopen₂ op e).mono fun x t₃ d₃ hx => ?_
  obtain ⟨hresult, ⟨c', hn₃⟩, harmed, hs₃⟩ := hx
  rw [hrec.connection] at hresult hn₃
  refine ⟨hresult, ?_⟩
  have hsession : d₃.session = { d₀.session with
      journal := d₃.session.journal
      outage := d.session.outage
      active := .secondary
      retryLoop := d₃.session.retryLoop } :=
    hs₃.trans (by rw [hs₂, hs₁, hrec.session])
  refine ⟨?_, ?_, ?_, ?_, ?_, ?_, harmed, ?_, ?_⟩
  · rw [hsession]
  · rw [hsession]
  · rw [hsession]
  · rw [hsession, hrec.failed]
  · rw [hsession, hrec.good]
  · rw [hn₃.blacklist, hrec.excluded]
  · rw [hsession, hrec.queries]
  · rw [hn₃.cluster, hrec.cluster, hrec.connection]
    rfl

theorem unshared_primaryFail (hd : Ready p h d₀) (hs : d₀.network.server h = .ok s)
    (hrec : Recorded p op d₀ d) (e : Error) :
    (primaryFailReplicated (some op) true).Ensures unshared (fun x _ d' =>
      Recovered p h s op e d₀ (x.result e) d') t d := by
  have hprimary : d.session.primary = some p := by rw [hrec.session, hd.primary]
  have hgone : d.network.Gone p := by
    obtain ⟨e', he⟩ := hd.gone
    exact ⟨e', (hrec.server p).trans he⟩
  refine ensures_bind.2 (ensures_read.2 fun now => ⟨trivial, ?_⟩)
  rw [hprimary]
  refine (unaltered_answering hgone).bind fun x t₁ d₁ hx => ?_
  obtain ⟨rfl, hn, hs₁⟩ := hx
  have hrec := hrec.pass hn hs₁
  refine (unshared_failPrimary hrec.failed).bind fun _ t₂ d₂ hx => ?_
  subst hx
  refine ensures_bind.2 (ensures_read.2 fun now => ⟨trivial, ?_⟩)
  refine ensures_bind.2 (ensures_read.2 fun now' => ⟨trivial, ?_⟩)
  have hpatient : d₂.session.options.autoReconnect = false := by rw [hrec.session, hd.patient]
  rw [hpatient, if_neg (by simp)]
  exact unshared_fallBack hd hs hrec e

theorem unshared_handleFailover (hd : Ready p h d₀) (hs : d₀.network.server h = .ok s)
    (hn : Unaltered d₀.network d.network) (hw : d₀.session.Writes d.session) (e : Error) :
    (handleFailover p (some op)).Ensures unshared (fun x _ d' =>
      Recovered p h s op e d₀ (x.result e) d') t d := by
  have hactive : d.session.active = .primary := by rw [hw, hd.active]
  have hcurrent : d.session.current = some p := by
    rw [Session.current, hactive, hw, hd.primary]
  refine ensures_bind.2 (ensures_read.2 fun now => ⟨trivial, ?_⟩)
  rw [hcurrent]
  dsimp only
  rw [if_pos rfl]
  refine ensures_bind.2 (ensures_read.2 fun now' => ⟨trivial, ?_⟩)
  have hpolicy : d.session.policy = .replicated := by rw [hw, ← hd.policy]; rfl
  rw [hactive, hpolicy]
  exact (unshared_recordFailure hd.good hn hw op).bind fun _ t d hrec =>
    unshared_primaryFail hd hs hrec e

/-- The whole of a call that breaks the primary. -/
theorem recovered_execute {r : Except Error QueryResult} {e : Error} {t' : List (Change Desk)}
    {d' : Desk} (hd : Ready p h d) (hs : d.network.server h = .ok s) (he : e.isConnectivity = true)
    (hbreaks : ∀ t r t' d', (invoke p op).Plays (fun _ _ => False) t d r t' d' → r = .error e)
    (hplay : (execute op).Plays (fun _ _ => False) t d r t' d') :
    Recovered p h s op e d r d' := by
  obtain ⟨_, t₁, d₁, hprepare, hplay⟩ := plays_bind.1 hplay
  obtain rfl : d = d₁ := ((unshared_prepare hd.good op).plays hprepare).symm
  obtain ⟨S, t₂, d₂, hread, hplay⟩ := plays_bind.1 hplay
  obtain ⟨now, rfl, rfl, rfl⟩ := plays_read.1 hread
  rw [Session.current, hd.active, hd.primary] at hplay
  obtain ⟨r₁, t₃, d₃, hinvoke, hplay⟩ := plays_bind.1 hplay
  obtain ⟨hn, hw⟩ := (unaltered_invoke hd.gone op).plays hinvoke
  obtain rfl : r₁ = .error e := hbreaks _ _ _ _ hinvoke
  dsimp only at hplay
  rw [if_pos he] at hplay
  obtain ⟨x, t₄, d₄, hlocked, hplay⟩ := plays_bind.1 hplay
  obtain ⟨rfl, rfl, rfl⟩ := plays_pure.1 hplay
  obtain ⟨t₅, d₅, hamid, hbody⟩ := plays_locked.1 hlocked
  obtain rfl := Amid.same hamid
  exact (unshared_handleFailover hd hs (hn ⟨e, rfl⟩) hw e).plays hbody

end Act

namespace Office
variable {ask : Request → Prop} {t₀ t : List (Change Desk)} {o₀ o : Office} {p h : Handle}
  {s : Server} {op : Operation} {e : Error}

/-- An operation that breaks the primary of a session that does not reconnect at once moves the
session to a good secondary. The primary is failed and its host left out, the retry loop is armed,
and a query counts as the first since. The secondary's server is sent the settings as far as they
differ, and after them the operation, up to a statement that it refuses, unless the operation must
not be sent twice; no other server is sent anything. The caller gets the result of the operation
that was sent again, else the error that came first. -/
theorem falls_back (ho : o₀.Begun SameSession) (h₀ : Chronicle ask HandsIn SameSession t₀ o₀ t o)
    (hd : Act.Ready p h o.desk) (hs : o.desk.network.server h = .ok s)
    (he : e.isConnectivity = true)
    (hbreaks : ∀ t r t' d', (Act.invoke p op).Plays (fun _ _ => False) t o.desk r t' d' →
      r = .error e) :
    let source := o.desk.network.connection p
    let dest := o.desk.network.connection h
    let reply := (source.adopt dest).perform s op
    (reply.sent <+: op.statements ∧ ∀ x, reply.result = .ok x → reply.sent = op.statements) ∧
    (∃ r t' d', (Act.execute op).Plays (fun _ _ => False) t o.desk r t' d') ∧
    ∀ r t' d', (Act.execute op).Plays (fun _ _ => False) t o.desk r t' d' →
      r = (if op.isReplayable then reply.result else .error e) ∧
      Act.FellBack p h (if op.isQuery then 1 else 0)
        (source.carried dest ++ if op.isReplayable then reply.sent else []) o.desk d' := by
  refine ⟨Connection.sent_perform op, exists_plays _ _ _ _, fun r t' d' hplay => ?_⟩
  have hprimary : o.desk.session.outage.primaryFailed = false := by
    have hgood := hd.good
    simp only [Outage.anyFailed, Bool.or_eq_false_iff] at hgood
    exact hgood.1
  have hqueries := ho.tallied h₀ hprimary
  obtain ⟨hresult, hfell⟩ := Act.recovered_execute hd hs he hbreaks hplay
  rw [hqueries] at hfell
  exact ⟨hresult, hfell⟩

/-- The isolation level has been set, and then the primary's server goes down. -/
def leveled : Office :=
  (((opened vacant).serving (.execute (.setIsolation .serializable))).work 0 60).amid
    fun c => c.stop (Cluster.numbered .primary 0).endpoint

/-- The query that meets it runs on the replica, at that level. -/
theorem falls_back_level : ∃ t₀ t o₀ o r t' d', o₀.Begun SameSession ∧
    Chronicle (fun _ => True) HandsIn SameSession t₀ o₀ t o ∧
    (Act.execute (.query "SELECT 1")).Plays (fun _ _ => False) t o.desk r t' d' ∧
    r = .ok .empty ∧ Act.FellBack 0 1 1
      ["SET SESSION TRANSACTION ISOLATION LEVEL SERIALIZABLE", "SELECT 1"] o.desk d' := by
  have ho : (opened vacant).Begun SameSession := begun_opened (by decide +kernel)
  have hserved : Chronicle (fun _ => True) HandsIn SameSession [] (opened vacant) _ _ :=
    (Chronicle.opened.serve (r := .execute (.setIsolation .serializable)) rfl trivial).work 0 60
  have hrun : Chronicle (fun _ => True) HandsIn SameSession [] (opened vacant) _ leveled :=
    hserved.step (.befall 0 _ (Option.isNone_iff_eq_none.1 (by decide +kernel)) rfl)
      (.inr ⟨_, rfl, rfl⟩)
  have hgone : (leveled.desk.network.server 0).toOption.isNone = true := by decide +kernel
  have hcalm : ∀ k, (leveled.desk.network.meet
      (leveled.desk.network.connection 0).host.endpoint k).1.2 = none :=
    fun k => by cases k <;> decide +kernel
  obtain ⟨e, he⟩ : leveled.desk.network.Gone 0 := by
    cases hs : leveled.desk.network.server 0 with
    | error e => exact ⟨e, hs⟩
    | ok s =>
      rw [hs] at hgone
      cases hgone
  have hready : Act.Ready 0 1 leveled.desk :=
    ⟨by decide +kernel, by decide +kernel, by decide +kernel, by decide +kernel, by decide +kernel,
      by decide +kernel, by decide +kernel, ⟨e, he⟩, by decide +kernel, by decide +kernel⟩
  obtain ⟨s, hs⟩ := hready.usable.server
  have hbreaks : ∀ t r t' d', (Act.invoke 0 (.query "SELECT 1")).Plays (fun _ _ => False) t
      leveled.desk r t' d' → r = .error e := by
    intro t r t' d' hplay
    have hend := (Act.unshared_noted (t := t) (.invoke 0 (.query "SELECT 1")) fun _ =>
      Calls.unaltered_execute he "SELECT 1").plays hplay
    exact hend.1.2.1 (untroubled_iff.2 hcalm)
  obtain ⟨-, ⟨r, t', d', hplay⟩, hall⟩ :=
    falls_back ho hrun hready hs (isConnectivity_of_server he) hbreaks
  obtain ⟨hr, hfell⟩ := hall r t' d' hplay
  have hanswer (c : Connection) :
      (c.perform s (.query "SELECT 1")).result = .ok .empty ∧
        (c.perform s (.query "SELECT 1")).sent = ["SELECT 1"] := by
    have htrimmed : Text.trimmed "SELECT 1" = "SELECT 1" := by decide +kernel
    have hread : isWrite "SELECT 1" = false := by decide +kernel
    have hcommand : String.ofList (keywords "SELECT 1") = "SELECT 1" := by decide +kernel
    dsimp only [Connection.perform, Connection.answer]
    rw [htrimmed, hread, hcommand, if_neg (by simp), if_neg (by decide)]
    exact ⟨rfl, rfl⟩
  have hcarried : (leveled.desk.network.connection 0).carried (leveled.desk.network.connection 1) =
      ["SET SESSION TRANSACTION ISOLATION LEVEL SERIALIZABLE"] := by decide +kernel
  have hreplayable : (Operation.query "SELECT 1").isReplayable = true := by decide +kernel
  rw [if_pos hreplayable, (hanswer _).1] at hr
  rw [if_pos hreplayable, (hanswer _).2, hcarried] at hfell
  exact ⟨_, _, _, _, r, t', d', ho, hrun, hplay, hr, hfell⟩

end Office
end Failover

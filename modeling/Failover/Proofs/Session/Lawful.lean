import Failover.Proofs.Carryover.Settings
import Failover.Proofs.Office.Basic
import Failover.Proofs.Session.SendCount

/-!
What the holder of a session's lock does. It puts another connection in the place of the one that
serves only for cause, and carries the settings over before, save where it writes over the slot that
serves.
-/
namespace Failover

section Throughout
variable {σ : Type}

/-- At every moment of a log that ends in this state. -/
def Throughout (p : σ → Prop) (t : List (Change σ)) (s : σ) : Prop := p s ∧ ∀ e ∈ t, p e.before

def first : List (Change σ) → σ → σ
  | [], s => s
  | e :: t, _ => first t e.before

theorem Throughout.imp {p q : σ → Prop} {t : List (Change σ)} {s : σ} (hpq : ∀ s, p s → q s)
    (h : Throughout p t s) : Throughout q t s :=
  ⟨hpq s h.1, fun e he => hpq e.before (h.2 e he)⟩

theorem throughout_cons {p : σ → Prop} {t : List (Change σ)} {e : Change σ} {s : σ} :
    Throughout p (e :: t) s ↔ p s ∧ Throughout p t e.before := by
  simp [Throughout]

theorem Throughout.first {p : σ → Prop} {t : List (Change σ)} {s : σ} (h : Throughout p t s) :
    p (first t s) := by
  induction t generalizing s with
  | nil => exact h.1
  | cons e t ih => exact ih (throughout_cons.1 h).2

instance {p : σ → Prop} [DecidablePred p] {t : List (Change σ)} {s : σ} :
    Decidable (Throughout p t s) :=
  inferInstanceAs (Decidable (_ ∧ _))

theorem throughout_map {τ : Type} {get : τ → σ} {p : σ → Prop} {t : List (Change τ)} {u : τ} :
    Throughout p (t.map (Change.map get)) (get u) ↔ Throughout (fun u => p (get u)) t u := by
  simp [Throughout, Change.map]

end Throughout

namespace Network

/-- The connection is sound, answers a ping, and reports a transaction. -/
structure Engaged (h : Handle) (n : Network) : Prop where
  server : ∃ s, n.server h = .ok s
  answers : (n.meet (n.connection h).host.endpoint .ping).1.2 = none
  inTransaction : (n.connection h).inTransaction = true

theorem engaged_iff {h : Handle} {n : Network} : n.Engaged h ↔
    (n.server h).toBool = true ∧ (n.meet (n.connection h).host.endpoint .ping).1.2 = none ∧
      (n.connection h).inTransaction = true := by
  have hserver : (n.server h).toBool = true ↔ ∃ s, n.server h = .ok s := by
    cases n.server h <;> simp [Except.toBool]
  rw [hserver]
  exact ⟨fun he => ⟨he.server, he.answers, he.inTransaction⟩, fun he => ⟨he.1, he.2.1, he.2.2⟩⟩

instance {h : Handle} {n : Network} : Decidable (n.Engaged h) := decidable_of_iff' _ engaged_iff

end Network

namespace Desk

/-- The slots and what was carried over are about connections that were opened, and with one writer
there is no replica. -/
structure Sound (d : Desk) : Prop where
  primary : ∀ h, d.session.primary = some h → h < d.network.connections.size
  secondary : ∀ h, d.session.secondary = some h → h < d.network.connections.size
  syncs : ∀ p ∈ d.session.syncs, p.2 < d.network.connections.size
  single : d.session.policy = .single → d.session.secondary = none

theorem Sound.sameRoute {d d' : Desk} (h : Sound d) (hs : SameRoute d d') : Sound d' := by
  obtain ⟨htopology, -, hprimary, hsecondary, -⟩ := Session.fields_of_route hs.route
  refine ⟨fun c hc => ?_, fun c hc => ?_, fun p hp => ?_, fun hp => ?_⟩
  · exact Nat.lt_of_lt_of_le (h.primary c (hprimary ▸ hc)) hs.grows
  · exact Nat.lt_of_lt_of_le (h.secondary c (hsecondary ▸ hc)) hs.grows
  · exact Nat.lt_of_lt_of_le (h.syncs p (hs.syncs ▸ hp)) hs.grows
  · rw [hsecondary]
    exact h.single (by rwa [Session.policy, ← htopology])

/-- A connection was put into the slot that serves while the session stayed where it was: one that
was asked to read only on its primary, or one that was not on its secondary. -/
def Overwrites (d d' : Desk) : Prop :=
  d.session.policy = .replicated ∧ d'.session.active = d.session.active ∧
    match d.session.active with
    | .primary => d.session.outage.readOnlyRequested = true
    | .secondary =>
      d.session.outage.readOnlyRequested = false ∧ d.session.outage.primaryFailed = false

/-- Nothing was ever carried over to the connection, which is open. -/
structure Fresh (h : Handle) (d : Desk) : Prop where
  opened : h < d.network.connections.size
  unsynced : ∀ x, (x, h) ∉ d.session.syncs

theorem Fresh.sameRoute {h : Handle} {d d' : Desk} (hf : Fresh h d) (hs : SameRoute d d') :
    Fresh h d' :=
  ⟨Nat.lt_of_lt_of_le hf.opened hs.grows, fun x => by rw [hs.syncs]; exact hf.unsynced x⟩

def InTransaction (h : Handle) (d : Desk) : Prop := (d.network.connection h).inTransaction = true

instance {h : Handle} : DecidablePred (InTransaction h) := fun _ => inferInstanceAs (Decidable (_ = _))

/-- The connection is sound, answers a ping, and reports a transaction. -/
def Engaged (h : Handle) (d : Desk) : Prop := d.network.Engaged h

instance {h : Handle} : DecidablePred (Engaged h) := fun d =>
  inferInstanceAs (Decidable (d.network.Engaged h))

end Desk

open Desk

/-- Nobody else has touched the settings of the connection. -/
def Untouched (h : Handle) (es : List (Change Desk)) : Prop :=
  ∀ e ∈ es, e.own = false →
    (e.after.network.connection h).settings = (e.before.network.connection h).settings

/-- The settings of `a` have been carried over to `b` while `a` served, as it still does. Where that
went well, and nobody else touched those of `a` meanwhile or those of `b` since, `b` has them now.
-/
def Synced (a b : Handle) (t : List (Change Desk)) (d : Desk) : Prop :=
  ∃ t₁ d₁ r es t₂ d₂ later, (Act.sync a b).Plays SameCore t₁ d₁ r t₂ d₂ ∧ t₂ = es ++ t₁ ∧
    t = later ++ t₂ ∧ (∀ e ∈ later ++ es, e.before.session.current = some a) ∧
    (r = .ok () → a ≠ b → Untouched a es → Untouched b (later ++ es) →
      (d₁.network.connection a).Carries (d.network.connection b))

def Answered (h : Handle) (t : List (Change Desk)) : Prop :=
  ∃ t₁ d₁ t₂ d₂,
    (Act.onNetwork (Calls.ping h)).Plays SameCore t₁ d₁ (.ok true) t₂ d₂ ∧ t₂ <:+ t

/-- A check has found the primary unfit. -/
def Unfit (t : List (Change Desk)) : Prop :=
  ∃ p limit t₁ d₁ r t₂ d₂, d₁.session.primary = some p ∧
    (Act.onNetwork (Health.ofPrimaryWithin limit p)).Plays SameCore t₁ d₁ r t₂ d₂ ∧
    r ≠ .healthy ∧ t₂ <:+ t

/-- Who may move a session out of a transaction: one who was asked for a reconnection, a round of
the ping loop that found the primary unfit, and an errand for a session with one writer that was
known to be lost. -/
def Exempt (duty : Duty) (t : List (Change Desk)) (d : Desk) : Prop :=
  duty = .request .reconnect ∨ (∃ g delay, duty = .errand (.ping g delay)) ∧ Unfit t ∨
    (∃ e, duty = .errand e) ∧ (first t d).session.policy = .single ∧
      (first t d).session.outage.primaryFailed = true

/-- The connection that served when the lock was taken is not in the middle of a transaction, or may
be taken out of it. -/
def Excused (duty : Duty) (t : List (Change Desk)) (d : Desk) : Prop :=
  ∀ a, (first t d).session.current = some a → Throughout (Engaged a) t d → Exempt duty t d

def OpenedByHolder (b : Handle) (t : List (Change Desk)) : Prop :=
  ∃ e ∈ t, e.own = true ∧ e.before.network.connections.size ≤ b ∧
    b < e.after.network.connections.size

/-- Another connection than the one that served when the lock was taken may be sent what broke in a
transaction: the other slot where it is not failed and has answered, or, where the secondary was
lost that served, the connection that a reconnection under this lock has opened and that serves by
now. -/
def Diverted (b : Handle) (t : List (Change Desk)) (d : Desk) : Prop :=
  (first t d).session.policy = .replicated ∧
    ((first t d).session.active = .primary ∧ d.session.secondary = some b ∧
        d.session.outage.secondaryFailed = false ∧ Answered b t ∨
      (first t d).session.active = .secondary ∧ d.session.primary = some b ∧
        d.session.outage.primaryFailed = false ∧ Answered b t ∨
      (first t d).session.active = .secondary ∧
        (first t d).session.options.autoReconnect = true ∧ d.session.current = some b ∧
        OpenedByHolder b t ∧ d.session.outage.secondaryFailed = false)

def Permitted (b : Handle) (t : List (Change Desk)) (d : Desk) : Prop :=
  ∀ a, (first t d).session.current = some a → Throughout (InTransaction a) t d → b ≠ a →
    Diverted b t d

/-- What the holder of the lock may do. -/
structure Lawful (duty : Duty) (t : List (Change Desk)) (e : Change Desk) : Prop where
  unsynced : ∀ a b, e.before.session.current = some a → e.after.session.current = some b → a ≠ b →
    Overwrites e.before e.after → ∀ x, (x, b) ∉ e.after.session.syncs
  synced : ∀ a b, e.before.session.current = some a → e.after.session.current = some b → a ≠ b →
    ¬ Overwrites e.before e.after → Synced a b t e.before ∧ e.after.network = e.before.network
  excused : ∀ a b, e.before.session.current = some a → e.after.session.current = some b → a ≠ b →
    Excused duty t e.before
  permitted : ∀ b op, e.sending? = some (b, op) → Permitted b t e.before

theorem Lawful.of_current {duty : Duty} {t : List (Change Desk)} {d d' : Desk} {now : Nat}
    (hc : d'.session.current = d.session.current)
    (hp : ∀ b op, Change.sending? ⟨true, now, d, d'⟩ = some (b, op) → Permitted b t d) :
    Lawful duty t ⟨true, now, d, d'⟩ := by
  have hsame {a b : Handle} (ha : d.session.current = some a) (hb : d'.session.current = some b) :
      a = b := by
    rw [hc, ha] at hb
    exact Option.some.inj hb
  exact ⟨fun a b ha hb hne => (hne (hsame ha hb)).elim, fun a b ha hb hne => (hne (hsame ha hb)).elim,
    fun a b ha hb hne => (hne (hsame ha hb)).elim, hp⟩

theorem Lawful.of_synced {duty : Duty} {t : List (Change Desk)} {d : Desk} {s : Session} {now : Nat}
    (hx : Excused duty t d) (hj : s.journal = d.session.journal)
    (h : ∀ a b, d.session.current = some a → s.current = some b → a ≠ b →
      ¬ Overwrites d ⟨s, d.network⟩ ∧ Synced a b t d) :
    Lawful duty t ⟨true, now, d, ⟨s, d.network⟩⟩ :=
  ⟨fun a b ha hb hne ho => ((h a b ha hb hne).1 ho).elim,
    fun a b ha hb hne _ => ⟨(h a b ha hb hne).2, rfl⟩, fun _ _ _ _ _ => hx,
    fun _ _ hsend => (not_sending_of_unsent (.of_eq hj) hsend).elim⟩

theorem Lawful.of_overwrites {duty : Duty} {t : List (Change Desk)} {d : Desk} {s : Session}
    {now : Nat} (hx : Excused duty t d) (hj : s.journal = d.session.journal)
    (h : ∀ a b, d.session.current = some a → s.current = some b → a ≠ b →
      Overwrites d ⟨s, d.network⟩ ∧ Fresh b d) :
    Lawful duty t ⟨true, now, d, ⟨s, d.network⟩⟩ := by
  refine ⟨fun a b ha hb hne _ x hmem => ?_, fun a b ha hb hne ho => (ho (h a b ha hb hne).1).elim,
    fun _ _ _ _ _ => hx, fun _ _ hsend => (not_sending_of_unsent (.of_eq hj) hsend).elim⟩
  refine (h a b ha hb hne).2.unsynced x ?_
  rwa [Session.syncs, hj] at hmem

theorem Lawful.of_routeUnsent {duty : Duty} {t : List (Change Desk)} {d d' : Desk} {now : Nat}
    (h : RouteUnsent d d') : Lawful duty t ⟨true, now, d, d'⟩ :=
  .of_current (Session.current_of_route h.route)
    fun _ _ hsend => (not_sending_of_unsent h.unsent hsend).elim

def house : House where
  lockFree := SameCore
  own := Lawful
  inOrder := Sound

end Failover

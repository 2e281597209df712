import Failover.Proofs.Network.UsableConnections
import Failover.Proofs.Office.ServingSlots

/-!
False alarms. Whoever reports the failure of a connection that does not serve any more has his
operation sent over the one that does, and nothing else happens. The failure of a connection that
serves and still answers is taken back, as if it had never been recorded.
-/
namespace Failover
open Desk Routine

section Does
variable {σ ℓ κ α : Type} {ok ok' : σ → σ → Prop} {others : σ → σ → Prop} {p : σ → Prop}
  {t t₁ t' : List (Change σ)} {s s' : σ} {r : Routine σ ℓ κ α} {a : α}

/-- From one log to a later one every change of the routine's own is as allowed. -/
def Does (ok : σ → σ → Prop) (t t' : List (Change σ)) : Prop :=
  ∃ es, t' = es ++ t ∧ ∀ e ∈ es, e.own = true → ok e.before e.after

theorem Does.refl (t : List (Change σ)) : Does ok t t := ⟨[], rfl, nofun⟩

theorem Does.cons (h : Does ok t t') {e : Change σ} (he : e.own = true → ok e.before e.after) :
    Does ok t (e :: t') := by
  obtain ⟨es, rfl, hes⟩ := h
  exact ⟨e :: es, rfl, List.forall_mem_cons.2 ⟨he, hes⟩⟩

theorem Does.trans (h : Does ok t t₁) (h' : Does ok t₁ t') : Does ok t t' := by
  obtain ⟨es, rfl, hes⟩ := h
  obtain ⟨es', rfl, hes'⟩ := h'
  refine ⟨es' ++ es, (List.append_assoc _ _ _).symm, fun e he => ?_⟩
  exact (List.mem_append.1 he).elim (hes' e) (hes e)

theorem Does.mono (h : Does ok t t') (hok : ∀ s s', ok s s' → ok' s s') : Does ok' t t' := by
  obtain ⟨es, rfl, hes⟩ := h
  exact ⟨es, rfl, fun e he ho => hok _ _ (hes e he ho)⟩

theorem Does.grows (h : Does ok t t') : t <:+ t' := by
  obtain ⟨es, rfl, -⟩ := h
  exact List.suffix_append es t

theorem Routine.Plays.grows (hplay : r.Plays others t s a t' s') : t <:+ t' := by
  obtain ⟨es, rfl, -⟩ := hplay.log
  exact List.suffix_append es t

theorem Amid.does (h : Amid others t s t' s') : Does ok t t' :=
  h.preserves (P := fun t' _ => Does ok t t') (fun _ _ _ _ hd _ => hd.cons nofun) (.refl t)

theorem Routine.Steps.does (h : r.Steps ok) (hplay : r.Plays others t s a t' s') :
    Does ok t t' := by
  have hdoes : r.Ensures ⟨others, fun _ _ => True⟩ (fun _ t' _ => Does ok t t') t s :=
    h.ensures (fun _ _ _ _ hd _ => hd.cons nofun)
      (fun _ _ _ _ hd hok => ⟨trivial, hd.cons fun _ => hok⟩) (.refl t)
  exact hdoes.plays hplay

/-- From one log to a later one somebody else has made it false. -/
def Spoilt (p : σ → Prop) (t t' : List (Change σ)) : Prop :=
  ∃ e u, e :: u <:+ t' ∧ t <:+ u ∧ e.own = false ∧ p e.before ∧ ¬p e.after

theorem Routine.Steps.spared (h : r.Steps fun s s' => p s → p s') (hp : p s)
    (hplay : r.Plays others t s a t' s') : p s' ∨ Spoilt p t t' := by
  have hcons {t₁ : List (Change σ)} {s₁ s₂ : σ} {own : Bool} {now : Nat} (ht : t <:+ t₁)
      (hd : p s₁ ∨ Spoilt p t t₁) (hstep : own = true → p s₁ → p s₂) :
      t <:+ ⟨own, now, s₁, s₂⟩ :: t₁ ∧ (p s₂ ∨ Spoilt p t (⟨own, now, s₁, s₂⟩ :: t₁)) := by
    refine ⟨ht.trans (List.suffix_cons _ t₁), ?_⟩
    rcases hd with hs | ⟨e, u, he, hu, hspoilt⟩
    · by_cases hs' : p s₂
      · exact .inl hs'
      · cases own with
        | true => exact .inl (hstep rfl hs)
        | false => exact .inr ⟨_, t₁, List.suffix_refl _, ht, rfl, hs, hs'⟩
    · exact .inr ⟨e, u, he.trans (List.suffix_cons _ t₁), hu, hspoilt⟩
  have hspared : r.Ensures ⟨others, fun _ _ => True⟩
      (fun _ t' s' => t <:+ t' ∧ (p s' ∨ Spoilt p t t')) t s :=
    h.ensures (fun _ _ _ _ hd _ => hcons hd.1 hd.2 nofun)
      (fun _ _ _ _ hd hok => ⟨trivial, hcons hd.1 hd.2 fun _ => hok⟩)
      ⟨List.suffix_refl t, .inl hp⟩
  exact (hspared.plays hplay).2

end Does

namespace Network
variable {n n' : Network}

/-- No connection is opened or closed, and nobody is put on a blacklist or taken off one. -/
structure Confined (n n' : Network) : Prop extends Keeps n n' where
  blacklist : ∀ r, n'.blacklist r = n.blacklist r

theorem Confined.of_keeps (h : Keeps n n') (hown : n'.ownBlacklist = n.ownBlacklist)
    (hshared : n'.processBlacklist = n.processBlacklist) : Confined n n' := by
  refine ⟨h, fun r => ?_⟩
  cases r with
  | own => exact hown
  | processWide => exact hshared

instance : AllowsCalls Confined where
  refl n := .of_keeps (.refl n) rfl rfl
  trans h h' := ⟨h.toKeeps.trans h'.toKeeps, fun r => (h'.blacklist r).trans (h.blacklist r)⟩
  meet c e n := by
    refine .of_keeps (.of_eq (connections_meet e c n)) ?_ ?_ <;>
      · unfold meet
        split
        · rfl
        · split <;> rfl
  record h s n := .of_keeps (.of_eq rfl) rfl rfl
  settings hc _ h n := .of_keeps (keeps_updateConnection hc h n) rfl rfl

instance : AllowsSettings Confined := ⟨fun hc h n => .of_keeps (keeps_updateConnection hc h n) rfl rfl⟩

end Network

namespace Session
variable {s s' : Session}

/-- Since when the role is failed, while it is. -/
def since (s : Session) : Active → Option Nat
  | .primary => s.outage.primarySince
  | .secondary => s.outage.secondarySince

/-- The session stands as it stood, but that the role that serves is good now, whatever it was, and
that nothing is counted against it any more. -/
structure Cleared (s s' : Session) : Prop where
  registry : s'.registry = s.registry
  primary : s'.primary = s.primary
  secondary : s'.secondary = s.secondary
  active : s'.active = s.active
  good : s'.failed s.active = false
  other : ∀ a, a ≠ s.active → s'.failed a = s.failed a ∧ s'.since a = s.since a

theorem Cleared.of_core {s'' : Session} (h : s.Cleared s') (hc : s''.core = s'.core) :
    s.Cleared s'' := by
  have hcleared : s.Cleared s'.core := ⟨h.registry, h.primary, h.secondary, h.active, h.good, h.other⟩
  rw [← hc] at hcleared
  exact ⟨hcleared.registry, hcleared.primary, hcleared.secondary, hcleared.active, hcleared.good,
    hcleared.other⟩

theorem Cleared.current (h : s.Cleared s') : s'.current = s.current := by
  rw [Session.current, Session.current, h.primary, h.secondary, h.active]

theorem since_mark_of_ne {a b : Active} (hb : b ≠ a) (now : Nat) :
    (s.mark a now).since b = s.since b := by
  cases a <;> cases b <;> simp only [mark, since, Outage.markPrimary, Outage.markSecondary] <;>
    first | exact (hb rfl).elim | (split <;> rfl)

theorem since_unmark_of_ne {a b : Active} (hb : b ≠ a) : (s.unmark a).since b = s.since b := by
  cases a <;> cases b <;> first | rfl | exact (hb rfl).elim

theorem cleared_unmark (s : Session) (now : Nat) :
    s.Cleared ((s.mark s.active now).unmark s.active) := by
  refine ⟨rfl, rfl, rfl, rfl, failed_unmark _ _, fun a ha => ⟨?_, ?_⟩⟩
  · rw [failed_unmark_of_ne ha, failed_mark_of_ne ha]
  · rw [since_unmark_of_ne ha, since_mark_of_ne ha]

end Session

namespace Desk

/-- Of a session's deeds nothing is noted but that the operation is sent over the connection, and no
connection is opened or closed. -/
structure ResendsAtMost (op : Option Operation) (h : Handle) (d d' : Desk) : Prop where
  journal : d'.session.journal = d.session.journal ∨
    ∃ o, op = some o ∧ d'.session.journal = .invoke h o :: d.session.journal
  keeps : d.network.Keeps d'.network

/-- What is more, nothing else of the session changes, and no blacklist does. -/
structure Resends (op : Option Operation) (h : Handle) (d d' : Desk) : Prop extends
    ResendsAtMost op h d d' where
  session : d'.session = { d.session with journal := d'.session.journal }
  blacklist : ∀ r, d'.network.blacklist r = d.network.blacklist r

variable {op : Option Operation} {h : Handle} {d d' : Desk}

theorem Resends.refl (op : Option Operation) (h : Handle) (d : Desk) : Resends op h d d :=
  ⟨⟨.inl rfl, .refl _⟩, rfl, fun _ => rfl⟩

theorem ResendsAtMost.of_eq (hj : d'.session.journal = d.session.journal)
    (hn : d'.network.connections = d.network.connections) : ResendsAtMost op h d d' :=
  ⟨.inl hj, .of_eq hn⟩

/-- A failure that was recorded has been taken back. -/
structure Calmed (s : Session) (h : Handle) (d : Desk) : Prop where
  cleared : s.Cleared d.session
  readmitted :
    (d.network.blacklist s.registry).contains (d.network.connection h).host.endpoint = false

/-- While the role that serves is marked failed, the connection answers a ping all the same. -/
def Vouches (h : Handle) (d : Desk) : Prop :=
  d.session.failed d.session.active = true → d.network.Answers .ping h

instance (h : Handle) (d : Desk) : Decidable (d.Vouches h) :=
  inferInstanceAs (Decidable (_ → _))

end Desk

namespace Act
open Carryover (Replay)
variable {ς : Outsiders} {others : Desk → Desk → Prop} {s : Session} {op : Option Operation}
  {h failed : Handle} {x : Replay} {t t' : List (Change Desk)} {d d' : Desk} {α : Type}

theorem plays_session {f : Session → Act α} {a : α} :
    (session >>= f).Plays others t d a t' d' ↔
      ∃ now, (f d.session).Plays others (⟨true, now, d, d⟩ :: t) d a t' d' := by
  refine plays_bind.trans ⟨fun hd => ?_, fun hd => ?_⟩
  · obtain ⟨_, t₁, d₁, hread, hplay⟩ := hd
    obtain ⟨now, rfl, rfl, rfl⟩ := plays_read.1 hread
    exact ⟨now, hplay⟩
  · obtain ⟨now, hplay⟩ := hd
    exact ⟨d.session, _, d, plays_read.2 ⟨now, rfl, rfl, rfl⟩, hplay⟩

theorem resends_relaunch (op : Option Operation) (h : Handle) :
    (relaunch op h).Steps (Resends op h) := by
  unfold relaunch Carryover.relaunch
  split
  · trivial
  · rename_i o ho
    have hop : op = some o := (Option.filter_eq_some_iff.1 ho).1
    have hinvoke : (invoke h o).Steps (Resends op h) := by
      refine (steps_change fun _ d => ?_).bind fun _ => ?_
      · exact ⟨⟨.inr ⟨o, hop, rfl⟩, .refl _⟩, rfl, fun _ => rfl⟩
      · have hcall : (Calls.invoke h o : NetRoutine Unit Errand _).Steps Network.Confined :=
          Calls.keeps_invoke h o
        exact hcall.embed fun _ _ hc => ⟨⟨.inl rfl, hc.toKeeps⟩, rfl, hc.blacklist⟩
    refine hinvoke.bind fun r => ?_
    cases r <;> trivial

section ResendsAtMost

theorem resendsAtMost_updateBlacklist (f : Nat → Endpoint → Blacklist → Blacklist) (x : Handle) :
    (updateBlacklist f x).Steps (ResendsAtMost op h) :=
  steps_change fun _ _ => .of_eq rfl (Network.connections_updateBlacklist ..)

theorem resendsAtMost_updateOutage (f : Nat → Outage → Outage) :
    (updateOutage f).Steps (ResendsAtMost op h) :=
  steps_change fun _ _ => .of_eq rfl rfl

theorem resendsAtMost_recordFailure (x : Handle) (o : Option Operation) :
    (recordFailure x o).Steps (ResendsAtMost op h) := by
  refine (steps_transact fun _ _ => .of_eq rfl rfl).bind fun fresh => ?_
  dsimp only
  split
  · exact steps_when (resendsAtMost_updateOutage _) (resendsAtMost_updateBlacklist _ x)
  · trivial

theorem resendsAtMost_failSecondary (x : Handle) : (failSecondary x).Steps (ResendsAtMost op h) := by
  refine (steps_transact fun _ _ => .of_eq rfl rfl).bind fun fresh => ?_
  split
  · exact resendsAtMost_updateBlacklist _ x
  · trivial

theorem resendsAtMost_answering (x : Option Handle) : (answering x).Steps (ResendsAtMost op h) := by
  cases x with
  | none => trivial
  | some x =>
    refine (Steps.embed (fun _ _ hk => ⟨.inl rfl, hk⟩) (Calls.keeps_ping x)).bind fun y => ?_
    rcases y with e | (_ | _) <;> trivial

end ResendsAtMost

section Forgiven

/-- The failure is taken back, and from there on the operation is sent again over the connection,
which is all that is left to do. -/
def Forgiven (others : Desk → Desk → Prop) (s : Session) (op : Option Operation) (h : Handle)
    (x : Replay) (t t' : List (Change Desk)) (d' : Desk) : Prop :=
  ∃ t₁ d₁, Does (ResendsAtMost op h) t t₁ ∧ Calmed s h d₁ ∧
    (relaunch op h).Plays others t₁ d₁ x t' d'

theorem Forgiven.since {t₁ : List (Change Desk)} (ht : Does (ResendsAtMost op h) t t₁)
    (hf : Forgiven others s op h x t₁ t' d') : Forgiven others s op h x t t' d' := by
  obtain ⟨t₂, d₂, hdoes, hrest⟩ := hf
  exact ⟨t₂, d₂, ht.trans hdoes, hrest⟩

theorem plays_answering (op : Option Operation) {k : Option Handle → Act α} {a : α}
    (hf : d.session.failed d.session.active = true) (hv : ¬Lapsed (Vouches h) t t')
    (hplay : (answering (some h) >>= k).Plays (OutsideLock ς) t d a t' d') :
    ∃ t₁ d₁, Does (ResendsAtMost op h) t t₁ ∧ d₁.session.core = d.session.core ∧
      (k (some h)).Plays (OutsideLock ς) t₁ d₁ a t' d' := by
  obtain ⟨y, t₁, d₁, hanswer, hplay⟩ := plays_bind.1 hplay
  have hcore := core_of_harmless (harmless_answering (some h)) hanswer
  refine ⟨t₁, d₁, (resendsAtMost_answering (some h)).does hanswer, hcore, ?_⟩
  obtain ⟨z, t₂, d₂, hping, hrest⟩ := plays_bind.1 hanswer
  have hanswers := (lapsed_onNetwork (ς := ς) (C := fun s => s.failed s.active = true)
    (fun _ _ hc hs => by rwa [Session.failed_of_core hc, Session.active_of_core hc])
    Calls.answers_ping hf).plays hping
  have hz : z = .ok true :=
    hanswers.resolve_right fun hl => hv (hl.upTo (hrest.grows.trans hplay.grows))
  subst hz
  obtain ⟨rfl, -, -⟩ := plays_pure.1 hrest
  exact hplay

theorem calmed_unmark {now : Nat} (hc : d.session.core = (s.mark s.active now).core)
    (f : Blacklist → Blacklist)
    (hf : ∀ b, (f b).contains (d.network.connection h).host.endpoint = false) :
    Calmed s h ⟨d.session.unmark s.active, d.network.updateBlacklist d.session.registry f⟩ := by
  have hregistry : d.session.registry = (s.mark s.active now).registry :=
    Session.of_core (·.registry) (fun _ => rfl) hc
  have hhost : (d.network.updateBlacklist d.session.registry f).connection h =
      d.network.connection h := by
    rw [Network.connection, Network.connections_updateBlacklist, Network.connection]
  refine ⟨(s.cleared_unmark now).of_core ((Session.central_unmark s.active).congr hc), ?_⟩
  change ((Network.blacklist _ (s.mark s.active now).registry).contains _) = false
  rw [hhost, ← hregistry, Network.blacklist_updateBlacklist, hf]

def recovered : Active → Handle → Act Unit
  | .primary => primaryRecovered
  | .secondary => secondaryRecovered

theorem plays_recovered (op : Option Operation) {u : Unit} {now : Nat}
    (hc : d.session.core = (s.mark s.active now).core)
    (hplay : (recovered s.active h).Plays others t d u t' d') :
    Does (ResendsAtMost op h) t t' ∧ Calmed s h d' := by
  have hsteps {f : Nat → Outage → Outage}
      (hplay : (do updateOutage f; readmit h : Act Unit).Plays others t d u t' d') :
      Does (ResendsAtMost op h) t t' ∧ ∃ time,
        d' = ⟨{ d.session with outage := f time d.session.outage },
          d.network.updateBlacklist d.session.registry
            (·.remove (d.network.connection h).host.endpoint)⟩ := by
    refine ⟨((resendsAtMost_updateOutage _).bind
      fun _ => resendsAtMost_updateBlacklist _ h).does hplay, ?_⟩
    obtain ⟨_, t₁, d₁, hreset, hreadmit⟩ := plays_bind.1 hplay
    obtain ⟨time, -, rfl⟩ := plays_change.1 hreset
    obtain ⟨_, -, rfl⟩ := plays_change.1 hreadmit
    exact ⟨time, rfl⟩
  have hcalmed := calmed_unmark (h := h) hc (·.remove (d.network.connection h).host.endpoint)
    fun b => b.contains_remove_self _
  cases ha : s.active <;>
    · rw [ha] at hplay hcalmed
      obtain ⟨hdoes, time, rfl⟩ := hsteps hplay
      exact ⟨hdoes, hcalmed⟩

theorem forgiven_answering {k : Option Handle → Act Replay} {rest : Act Replay} {now : Nat}
    (hc : d.session.core = (s.mark s.active now).core) (hv : ¬Lapsed (Vouches h) t t')
    (hk : k (some h) = do recovered s.active h; rest)
    (hrest : ∀ t₁ d₁, Calmed s h d₁ → rest.Plays (OutsideLock ς) t₁ d₁ x t' d' →
      Forgiven (OutsideLock ς) s op h x t₁ t' d')
    (hplay : (answering (some h) >>= k).Plays (OutsideLock ς) t d x t' d') :
    Forgiven (OutsideLock ς) s op h x t t' d' := by
  have hfailed : d.session.failed d.session.active = true := by
    rw [Session.failed_of_core hc, Session.active_of_core hc]
    exact Session.failed_mark s s.active now
  obtain ⟨t₁, d₁, hdoes, hcore, hplay⟩ := plays_answering op hfailed hv hplay
  rw [hk] at hplay
  obtain ⟨_, t₂, d₂, hrecovered, hplay⟩ := plays_bind.1 hplay
  obtain ⟨hdoes', hcalmed⟩ := plays_recovered op (hcore.trans hc) hrecovered
  exact (hrest t₂ d₂ hcalmed hplay).since (hdoes.trans hdoes')

theorem forgiven_relaunch (hc : Calmed s h d)
    (hplay : (relaunch op h).Plays others t d x t' d') : Forgiven others s op h x t t' d' :=
  ⟨t, d, .refl t, hc, hplay⟩

theorem forgiven_relaunchOnCurrent (hs : s.current = some h) (hc : Calmed s h d)
    (hplay : (relaunchOnCurrent op).Plays others t d x t' d') :
    Forgiven others s op h x t t' d' := by
  obtain ⟨now, hplay⟩ := plays_session.1 hplay
  rw [hc.cleared.current.trans hs] at hplay
  exact ⟨_, d, (Does.refl t).cons fun _ => .of_eq rfl rfl, hc, hplay⟩

theorem forgiven_look {slot : Session → Option Handle} {k : Session → Option Handle → Act Replay}
    {rest : Act Replay} {now : Nat} (hc : d.session.core = (s.mark s.active now).core)
    (hs : slot d.session = some h) (hv : ¬Lapsed (Vouches h) t t')
    (hk : ∀ s', k s' (some h) = do recovered s.active h; rest)
    (hrest : ∀ t₁ d₁, Calmed s h d₁ → rest.Plays (OutsideLock ς) t₁ d₁ x t' d' →
      Forgiven (OutsideLock ς) s op h x t₁ t' d')
    (hplay : (session >>= fun s' => answering (slot s') >>= k s').Plays (OutsideLock ς) t d x t' d') :
    Forgiven (OutsideLock ς) s op h x t t' d' := by
  obtain ⟨time, hplay⟩ := plays_session.1 hplay
  rw [hs] at hplay
  have hv : ¬Lapsed (Vouches h) (⟨true, time, d, d⟩ :: t) t' :=
    fun hl => hv (hl.since (List.suffix_cons _ t))
  refine (forgiven_answering hc hv (hk d.session) hrest hplay).since ?_
  exact (Does.refl t).cons fun _ => .of_eq rfl rfl

theorem forgiven_primaryFailSingle {now : Nat} (hc : d.session.core = (s.mark .primary now).core)
    (ha : s.active = .primary) (hs : s.slot .primary = some h) (hv : ¬Lapsed (Vouches h) t t')
    (hplay : (primaryFailSingle op).Plays (OutsideLock ς) t d x t' d') :
    Forgiven (OutsideLock ς) s op h x t t' d' := by
  have hslot : d.session.primary = some h := (Session.primary_of_core hc).trans hs
  rw [← ha] at hc
  exact forgiven_look hc hslot hv (fun _ => by rw [ha]; rfl) (fun _ _ => forgiven_relaunch) hplay

theorem forgiven_primaryFailReplicated {now : Nat}
    (hc : d.session.core = (s.mark .primary now).core) (ha : s.active = .primary)
    (hs : s.slot .primary = some h) (hv : ¬Lapsed (Vouches h) t t')
    (hplay : (primaryFailReplicated op true).Plays (OutsideLock ς) t d x t' d') :
    Forgiven (OutsideLock ς) s op h x t t' d' := by
  have hslot : d.session.primary = some h := (Session.primary_of_core hc).trans hs
  have hcurrent : s.current = some h := by rw [Session.current_eq, ha, hs]
  rw [← ha] at hc
  exact forgiven_look hc hslot hv (fun _ => by rw [ha]; rfl)
    (fun _ _ => forgiven_relaunchOnCurrent hcurrent) hplay

theorem forgiven_secondaryFailReplicated {now : Nat}
    (hc : d.session.core = (s.mark .secondary now).core) (ha : s.active = .secondary)
    (hs : s.slot .secondary = some h) (hv : ¬Lapsed (Vouches h) t t')
    (hplay : (secondaryFailReplicated op).Plays (OutsideLock ς) t d x t' d') :
    Forgiven (OutsideLock ς) s op h x t t' d' := by
  have hslot : d.session.secondary = some h := (Session.secondary_of_core hc).trans hs
  have hcurrent : s.current = some h := by rw [Session.current_eq, ha, hs]
  rw [← ha] at hc
  exact forgiven_look hc hslot hv (fun _ => by rw [ha]; rfl)
    (fun _ _ => forgiven_relaunchOnCurrent hcurrent) hplay

/-- Whatever serves and still answers is forgiven, in either role and by either policy. -/
theorem forgiven_recover (hd : Held ς s [] {} t d) (hw : s.Well) (hs : s.current = some h)
    (hv : ¬Lapsed (Vouches h) t t') (hplay : (recover h op).Plays (OutsideLock ς) t d x t' d') :
    Forgiven (OutsideLock ς) s op h x t t' d' := by
  rw [Session.current_eq] at hs
  have hsince {t₁ : List (Change Desk)} (ht : Does (ResendsAtMost op h) t t₁) :
      ¬Lapsed (Vouches h) t₁ t' := fun hl => hv (hl.since ht.grows)
  obtain ⟨time, hplay⟩ := plays_session.1 hplay
  have hd := hd.look time
  have hlook : Does (ResendsAtMost op h) t (⟨true, time, d, d⟩ :: t) :=
    (Does.refl t).cons fun _ => .of_eq rfl rfl
  rw [Session.active_of_core hd.core, Session.policy_of_core hd.core] at hplay
  cases ha : s.active with
  | primary =>
    simp only [ha] at hplay hs
    obtain ⟨_, t₁, d₁, hrecord, hplay⟩ := plays_bind.1 hplay
    obtain ⟨now, hd⟩ := (orderly_recordFailure h hd).plays hrecord
    have hdoes := hlook.trans ((resendsAtMost_recordFailure h op).does hrecord)
    cases hp : s.policy with
    | single =>
      rw [hp] at hplay
      exact (forgiven_primaryFailSingle hd.core ha hs (hsince hdoes) hplay).since hdoes
    | replicated =>
      rw [hp] at hplay
      exact (forgiven_primaryFailReplicated hd.core ha hs (hsince hdoes) hplay).since hdoes
  | secondary =>
    simp only [ha] at hplay hs
    have hp : s.policy = .replicated := by
      cases hp : s.policy with
      | single =>
        rw [(hw.single hp).1] at ha
        cases ha
      | replicated => rfl
    obtain ⟨_, t₁, d₁, hrecord, hplay⟩ := plays_bind.1 hplay
    obtain ⟨now, hd⟩ := (orderly_failSecondary h hd (by simp [hp])).plays hrecord
    have hdoes := hlook.trans ((resendsAtMost_failSecondary h).does hrecord)
    rw [hp] at hplay
    exact (forgiven_secondaryFailReplicated hd.core ha hs (hsince hdoes) hplay).since hdoes

end Forgiven
end Act

namespace Office
variable {ask : Request → Prop} {t₀ t t' : List (Change Desk)} {o₀ o : Office} {d' : Desk}
  {failed : Handle} {op : Option Operation} {x : Carryover.Replay}

/-- False alarms do no harm. Where another connection serves than the one that is reported, the
operation is sent over that one, and of the session nothing changes but its journal. Where the
connection that is reported serves, and answers a ping for as long as it passes for failed, its
failure is taken back: the session stands as it did, but that the role that serves is good; its host
is off the blacklist, and only others can put it there again; and all that is left is that the
operation is sent over it. No search is made, and no connection is opened or closed. -/
theorem false_alarm_harmless (ho : o₀.Founded .everyone t₀)
    (h : Chronicle ask HandsIn (OutsideLock .everyone) t₀ o₀ t o) (hfree : o.Unlocked)
    (hopen : o.desk.session.closed = false)
    (hplay : (Act.needsFailover failed op).Plays (OutsideLock .everyone) t o.desk x t' d') :
    (o.desk.session.current ≠ some failed → ∃ b, o.desk.session.current = some b ∧
      Does (Resends op b) t t' ∧
      ∃ t₁ d₁, t <:+ t₁ ∧ (Act.relaunch op b).Plays (OutsideLock .everyone) t₁ d₁ x t' d') ∧
    (o.desk.session.current = some failed → ¬Lapsed (Vouches failed) t t' →
      o.desk.session.Cleared d'.session ∧ Does (ResendsAtMost op failed) t t' ∧
      ∃ t₁ d₁, t <:+ t₁ ∧ Calmed o.desk.session failed d₁ ∧
        (Act.relaunch op failed).Plays (OutsideLock .everyone) t₁ d₁ x t' d' ∧
        Does (Resends op failed) t₁ t' ∧
        ((d'.network.blacklist o.desk.session.registry).contains
            (d₁.network.connection failed).host.endpoint = false ∨
          Spoilt (fun d => (d.network.blacklist o.desk.session.registry).contains
            (d₁.network.connection failed).host.endpoint = false) t₁ t')) := by
  have hwell := ho.well (fun _ hc => ⟨trivial, hc⟩) h hopen
  obtain ⟨t₁, d₁, hamid, hplay⟩ := plays_locked.1 hplay
  have hheld := ho.held h hfree (fun _ _ ha => ha) hamid
  obtain ⟨time, hplay⟩ := Act.plays_session.1 hplay
  rw [Session.current_of_core hheld.core] at hplay
  refine ⟨fun hne => ?_, fun hs hv => ?_⟩
  · obtain ⟨b, hb⟩ := hwell.serves
    have hother : b ≠ failed := by
      rintro rfl
      exact hne hb
    simp only [hb, hother, if_false] at hplay
    have hlook : Does (Resends op b) t (⟨true, time, d₁, d₁⟩ :: t₁) :=
      hamid.does.cons fun _ => .refl op b d₁
    exact ⟨b, hb, hlook.trans ((Act.resends_relaunch op b).does hplay), _, _, hlook.grows, hplay⟩
  · simp only [hs, if_true] at hplay
    have hlook : Does (ResendsAtMost op failed) t (⟨true, time, d₁, d₁⟩ :: t₁) :=
      hamid.does.cons fun _ => .of_eq rfl rfl
    obtain ⟨t₂, d₂, hdoes, hcalmed, hplay⟩ := Act.forgiven_recover (hheld.look time) hwell hs
      (fun hl => hv (hl.since hlook.grows)) hplay
    have hresends := (Act.resends_relaunch op failed).does hplay
    have hcore := Act.core_of_harmless (Act.harmless_relaunch op failed) hplay
    have hspares : (Act.relaunch op failed).Steps fun d d' : Desk =>
        (d.network.blacklist o.desk.session.registry).contains
            (d₂.network.connection failed).host.endpoint = false →
          (d'.network.blacklist o.desk.session.registry).contains
            (d₂.network.connection failed).host.endpoint = false :=
      (Act.resends_relaunch op failed).mono fun d d' hr hd => by rw [hr.blacklist, hd]
    have hlater := hlook.trans hdoes
    exact ⟨hcalmed.cleared.of_core hcore,
      hlater.trans (hresends.mono fun _ _ hr => hr.toResendsAtMost),
      t₂, d₂, hlater.grows, hcalmed, hplay, hresends, hspares.spared hcalmed.readmitted hplay⟩

/-- The primary is down and the replica serves. A query that is said to have broken on it is sent
over it again, and so is one that is said to have broken on the primary. -/
theorem false_alarm_harmless_replica : ∃ t₀ t o₀ o, o₀.Founded .everyone t₀ ∧
    Chronicle (fun _ => True) HandsIn (OutsideLock .everyone) t₀ o₀ t o ∧ o.Unlocked ∧
    o.desk.session.closed = false ∧ o.desk.session.current = some 1 ∧
    o.desk.session.failed .primary = true ∧
    (∃ x t' d', (Act.needsFailover 1 (some (.query "SELECT 1"))).Plays (OutsideLock .everyone)
      t o.desk x t' d' ∧ ¬Lapsed (Vouches 1) t t' ∧ o.desk.session.Cleared d'.session) ∧
    ∃ x t' d', (Act.needsFailover 0 (some (.query "SELECT 1"))).Plays (OutsideLock .everyone)
      t o.desk x t' d' ∧ ∃ b, o.desk.session.current = some b ∧
        Does (Resends (some (.query "SELECT 1")) b) t t' := by
  have ho : (opened vacant).Founded .everyone (opening vacant) := founded_opened (by decide +kernel)
  have hfree : fallen.Unlocked := unlocked_of_rest (by decide +kernel) (by decide +kernel)
  have hopen : fallen.desk.session.closed = false := by decide +kernel
  have hcurrent : fallen.desk.session.current = some 1 := by decide +kernel
  have hplay (failed : Handle) := plays_alone (OutsideLock .everyone) 0
    (Act.needsFailover failed (some (.query "SELECT 1"))) falling fallen.desk
  have hvouches : ∀ e ∈ ((Act.needsFailover 1 (some (.query "SELECT 1"))).alone 0 falling
      fallen.desk).2.1, e.before.Vouches 1 := by decide +kernel
  obtain ⟨hcleared, -⟩ := (false_alarm_harmless ho chronicle_fallen hfree hopen (hplay 1)).2 hcurrent
    (not_lapsed hvouches)
  obtain ⟨b, hb, hresends, -⟩ :=
    (false_alarm_harmless ho chronicle_fallen hfree hopen (hplay 0)).1 (by simp [hcurrent])
  exact ⟨_, _, _, _, ho, chronicle_fallen, hfree, hopen, hcurrent, by decide +kernel,
    ⟨_, _, _, hplay 1, not_lapsed hvouches, hcleared⟩, _, _, _, hplay 0, b, hb, hresends⟩

end Office
end Failover

import Failover.Proofs.Office.Requests
import Failover.Proofs.Office.Founded

/-!
How a session with one writer holds writes back. Whichever connection serves is marked as the
session was asked, and those that served before it are closed.
-/
namespace Failover
open Desk Routine

namespace Network
variable {foreign : Handle → Prop} {n n' n'' : Network}

/-- Save on the connections of others nothing changes whether writes are let through, and nothing
that is closed is opened again. -/
structure Spares (foreign : Handle → Prop) (n n' : Network) : Prop where
  size : n.connections.size ≤ n'.connections.size
  flags : ∀ h, h < n.connections.size → ¬foreign h →
    (n'.connection h).readOnly = (n.connection h).readOnly
  closed : ∀ h, h < n.connections.size → ¬foreign h → (n.connection h).closed = true →
    (n'.connection h).closed = true

theorem Spares.refl (n : Network) : Spares foreign n n :=
  ⟨Nat.le_refl _, fun _ _ _ => rfl, fun _ _ _ => id⟩

theorem Spares.trans (h : Spares foreign n n') (h' : Spares foreign n' n'') :
    Spares foreign n n'' := by
  refine ⟨Nat.le_trans h.size h'.size, fun x hx hf => ?_, fun x hx hf hc => ?_⟩
  · exact (h'.flags x (Nat.lt_of_lt_of_le hx h.size) hf).trans (h.flags x hx hf)
  · exact h'.closed x (Nat.lt_of_lt_of_le hx h.size) hf (h.closed x hx hf hc)

theorem Spares.of_eq (h : n'.connections = n.connections) : Spares foreign n n' := by
  have hsame (x : Handle) : n'.connection x = n.connection x := by rw [connection, connection, h]
  exact ⟨Nat.le_of_eq (by rw [h]), fun x _ _ => by rw [hsame], fun x _ _ hc => by rwa [hsame]⟩

theorem spares_updateConnection {f : Connection → Connection}
    (hc : ∀ c, c.closed = true → (f c).closed = true) {h : Handle}
    (hr : ¬foreign h → ∀ c, (f c).readOnly = c.readOnly) (n : Network) :
    Spares foreign n (n.updateConnection h f) := by
  refine ⟨Nat.le_of_eq (size_updateConnection h f n).symm, fun x hx hf => ?_,
    fun x hx hf hclosed => ?_⟩
  · by_cases he : x = h
    · subst he
      rw [connection_updateConnection_self f hx, hr hf]
    · rw [connection_updateConnection_of_ne f n he]
  · by_cases he : x = h
    · subst he
      rw [connection_updateConnection_self f hx]
      exact hc _ hclosed
    · rwa [connection_updateConnection_of_ne f n he]

instance : AllowsCalls (Spares foreign) where
  refl := .refl
  trans := .trans
  meet c e n := .of_eq (connections_meet e c n)
  record _ _ _ := .of_eq rfl
  settings hf hr _ :=
    spares_updateConnection (fun c => (Connection.closed_of_link (hf c)).trans) fun _ => hr

theorem spares_close (h : Handle) (n : Network) : Spares foreign n (n.close h) := by
  refine spares_updateConnection (fun c _ => ?_) (fun _ c => ?_) n <;> rfl

theorem readOnly_updateConnection {h : Handle} (hr : (n.connection h).readOnly = true) :
    ((n.updateConnection h fun c => { c with readOnly := true }).connection h).readOnly = true := by
  by_cases hsize : h < n.connections.size
  · rw [connection_updateConnection_self _ hsize]
  · have hnone : n.connection h = default := by simp [connection, hsize]
    rw [hnone] at hr
    cases hr

theorem connect_cases (host : Host) (n : Network) :
    ((∃ e, (n.connect host).1 = .error e) ∧ (n.connect host).2.connections = n.connections) ∨
      (n.connect host).1 = .ok n.connections.size ∧
        ∃ c : Connection, c.readOnly = false ∧
          (n.connect host).2.connections = n.connections.push c := by
  unfold connect
  split
  · exact .inl ⟨⟨_, rfl⟩, rfl⟩
  · rename_i s _
    dsimp only
    split
    · exact .inr ⟨rfl, _, rfl, rfl⟩
    · exact .inl ⟨⟨_, rfl⟩, rfl⟩

theorem spares_push {c : Connection} (h : n'.connections = n.connections.push c) :
    Spares foreign n n' := by
  have hsame (x : Handle) (hx : x < n.connections.size) : n'.connection x = n.connection x := by
    simp [connection, h, Array.getElem?_push, Nat.ne_of_lt hx]
  refine ⟨by simp [h], fun x hx _ => by rw [hsame x hx], fun x hx _ hc => ?_⟩
  rwa [hsame x hx]

theorem execute_directive (h : Handle) (readOnly : Bool) (n : Network) :
    ((∃ e, (n.execute h (readOnlyStatement readOnly)).1 = .error e) ∧
      (n.execute h (readOnlyStatement readOnly)).2 = n) ∨
    (n.execute h (readOnlyStatement readOnly)).1 = .ok .empty ∧
      (n.execute h (readOnlyStatement readOnly)).2 =
        (n.record h (Text.trimmed (readOnlyStatement readOnly))).updateConnection h
          fun c => { c with readOnly } := by
  have hwrite : isWrite (Text.trimmed (readOnlyStatement readOnly)) = false := by
    cases readOnly <;> decide +kernel
  have hcommand : String.ofList (keywords (Text.trimmed (readOnlyStatement readOnly))) =
      readOnlyStatement readOnly := by
    cases readOnly <;> decide +kernel
  have hobey : (Connection.obey (readOnlyStatement readOnly)) =
      fun c => { c with readOnly } := by
    funext c
    cases readOnly <;> rfl
  unfold execute
  split
  · exact .inl ⟨⟨_, rfl⟩, rfl⟩
  · right
    simp only [hwrite, hcommand, hobey, Bool.false_and, Bool.false_eq_true, if_false]
    have hid : readOnlyStatement readOnly ≠ "SELECT @@SERVER_ID" := by
      cases readOnly <;> decide
    rw [if_neg hid]
    exact ⟨rfl, rfl⟩

end Network

theorem Carryover.raises_setReadOnly {ℓ κ : Type} (foreign : Handle → Prop) (c : Handle) :
    (setReadOnly c true : NetRoutine ℓ κ (Except Error Unit)).Steps fun n n' =>
      n.Spares (fun h => foreign h ∨ h = c) n' ∧
        ((n.connection c).readOnly = true → (n'.connection c).readOnly = true) := by
  refine (steps_read fun n => ⟨.refl n, id⟩).bind fun knows => ?_
  split
  · refine Steps.thenOk (Calls.steps_onHandle (fun n => ⟨.refl n, id⟩) (fun e n => ?_) fun n => ?_)
      fun _ => trivial
    · have hsame := Network.connections_meet e .exec n
      refine ⟨.of_eq hsame, fun hr => ?_⟩
      rwa [Network.connection, hsame]
    · rcases n.execute_directive c true with ⟨-, hsame⟩ | ⟨-, hset⟩
      · rw [hsame]
        exact ⟨.refl n, id⟩
      · rw [hset]
        have hrecord : n.Spares (fun h => foreign h ∨ h = c)
            (n.record c (Text.trimmed (readOnlyStatement true))) := .of_eq rfl
        refine ⟨hrecord.trans (Network.spares_updateConnection (fun x hx => ?_) (fun hno => ?_) _),
          fun hr => Network.readOnly_updateConnection hr⟩
        · exact hx
        · exact (hno (.inr rfl)).elim
  · trivial

namespace Desk
variable {foreign : Handle → Prop} {d d' : Desk}

/-- The session serves on this connection, or has sent something on it. -/
def Knows (d : Desk) (h : Handle) : Prop :=
  d.session.primary = some h ∨ ∃ op, .invoke h op ∈ d.session.journal

/-- A session with one writer, which serves from its primary, with its ping loop at rest. -/
structure Lone (d : Desk) : Prop where
  policy : d.session.policy = .single
  active : d.session.active = .primary
  pings : d.session.pingLoop.AtRest
  known : ∀ h, d.Knows h → h < d.network.connections.size

/-- The connection that serves is marked as the session was asked, and those before it are closed.
-/
structure Marked (foreign : Handle → Prop) (d : Desk) : Prop extends Lone d where
  serving : ∀ h, d.session.primary = some h → ¬foreign h →
    (d.network.connection h).readOnly = d.session.outage.readOnlyRequested
  left : ∀ h, d.Knows h → d.session.primary ≠ some h → ¬foreign h →
    (d.network.connection h).closed = true

/-- Nothing is written on any connection of a session that was asked to be read-only. -/
def Guarded (foreign : Handle → Prop) (d : Desk) : Prop :=
  d.session.outage.readOnlyRequested = true → ∀ h, d.Knows h → ¬foreign h →
    (d.network.connection h).closed = true ∨ (d.network.connection h).readOnly = true

/-- What neither moves the session nor changes what it was asked, forgets nothing, and spares its
connections. -/
structure Bystands (foreign : Handle → Prop) (d d' : Desk) : Prop where
  topology : d'.session.topology = d.session.topology
  active : d'.session.active = d.session.active
  primary : d'.session.primary = d.session.primary
  asked : d'.session.outage.readOnlyRequested = d.session.outage.readOnlyRequested
  pings : d.session.policy = .single → d.session.pingLoop.AtRest →
    d'.session.pingLoop.AtRest
  known : d.session.active = .primary → ∀ h, d'.Knows h → d.Knows h
  journal : ∀ deed ∈ d.session.journal, deed ∈ d'.session.journal
  spares : d.network.Spares foreign d'.network

theorem Bystands.refl (d : Desk) : Bystands foreign d d :=
  ⟨rfl, rfl, rfl, rfl, fun _ => id, fun _ _ => id, fun _ => id, .refl _⟩

theorem Bystands.policy (h : Bystands foreign d d') : d'.session.policy = d.session.policy := by
  rw [Session.policy, h.topology, Session.policy]

theorem Bystands.lone (h : Bystands foreign d d') (hd : d.Lone) : d'.Lone := by
  refine ⟨h.policy.trans hd.policy, h.active.trans hd.active, h.pings hd.policy hd.pings,
    fun x hx => ?_⟩
  exact Nat.lt_of_lt_of_le (hd.known x (h.known hd.active x hx)) h.spares.size

theorem Bystands.guarded (h : Bystands foreign d d') (hd : d.Lone) (hg : d.Guarded foreign) :
    d'.Guarded foreign := by
  intro hr x hx hf
  have hk := h.known hd.active x hx
  have hsize := hd.known x hk
  rw [h.spares.flags x hsize hf]
  exact (hg (h.asked.symm.trans hr) x hk hf).imp_left (h.spares.closed x hsize hf)

theorem Bystands.marked (h : Bystands foreign d d') (hd : d.Marked foreign) :
    d'.Marked foreign := by
  refine ⟨h.lone hd.toLone, fun x hx hf => ?_, fun x hx hne hf => ?_⟩
  · rw [h.primary] at hx
    rw [h.spares.flags x (hd.known x (.inl hx)) hf, h.asked]
    exact hd.serving x hx hf
  · rw [h.primary] at hne
    have hk := h.known hd.active x hx
    exact h.spares.closed x (hd.known x hk) hf (hd.left x hk hne hf)

theorem Marked.guarded (hd : d.Marked foreign) : d.Guarded foreign := by
  intro hr x hx hf
  by_cases hp : d.session.primary = some x
  · exact .inr ((hd.serving x hp hf).trans hr)
  · exact .inl (hd.left x hx hp hf)

theorem Marked.mono {foreign' : Handle → Prop} (hd : d.Marked foreign)
    (hf : ∀ x, foreign x → foreign' x) : d.Marked foreign' :=
  ⟨hd.toLone, fun x hx hno => hd.serving x hx (mt (hf x) hno),
    fun x hx hne hno => hd.left x hx hne (mt (hf x) hno)⟩

theorem Marked.of_unknown {c : Handle} (hd : d.Marked fun h => foreign h ∨ h = c)
    (hc : ¬d.Knows c) : d.Marked foreign := by
  have hno {x : Handle} (hx : d.Knows x) (hf : ¬foreign x) : ¬(foreign x ∨ x = c) := by
    rintro (hx' | rfl)
    · exact hf hx'
    · exact hc hx
  exact ⟨hd.toLone, fun x hx hf => hd.serving x hx (hno (.inl hx) hf),
    fun x hx hne hf => hd.left x hx hne (hno hx hf)⟩

theorem bystands_network {n : Network} (h : d.network.Spares foreign n) :
    Bystands foreign d ⟨d.session, n⟩ :=
  ⟨rfl, rfl, rfl, rfl, fun _ => id, fun _ _ => id, fun _ => id, h⟩

theorem Side.bystands {asked : Operation → Prop} (h : Side (Network.Spares foreign) asked d d') :
    Bystands foreign d d' := by
  cases h with
  | network n hs => exact bystands_network hs
  | invoke x op _ hx =>
    refine ⟨rfl, rfl, rfl, rfl, fun _ => id, fun ha h hk => ?_,
      fun _ => List.mem_cons_of_mem _, .refl _⟩
    rw [Session.current, ha] at hx
    rcases hk with hp | ⟨op', hop⟩
    · exact .inl hp
    · rcases List.mem_cons.1 hop with he | hop
      · cases he
        exact .inl hx
      · exact .inr ⟨op', hop⟩
  | count =>
    refine ⟨rfl, rfl, rfl, ?_, fun _ => id, fun _ _ => id, fun _ => id, .refl _⟩
    simp only [Outage.countQuery]
    split <;> rfl
  | idle r _ hp =>
    refine ⟨rfl, rfl, rfl, rfl, fun hs => ?_, fun _ _ => id, fun _ => id, .refl _⟩
    rw [hp] at hs
    cases hs
  | staff users reconnecting =>
    exact ⟨rfl, rfl, rfl, rfl, fun _ => id, fun _ _ => id, fun _ => id, .refl _⟩
  | leave now =>
    unfold Session.leave
    dsimp only
    split
    · exact ⟨rfl, rfl, rfl, rfl, fun _ hr => hr.cancel now, fun _ _ => id, fun _ => id, .refl _⟩
    · exact ⟨rfl, rfl, rfl, rfl, fun _ => id, fun _ _ => id, fun _ => id, .refl _⟩
  | ended g _ => exact ⟨rfl, rfl, rfl, rfl, fun _ => id, fun _ _ => id, fun _ => id, .refl _⟩
  | rested g =>
    exact ⟨rfl, rfl, rfl, rfl, fun _ hr => hr.finish g, fun _ _ => id, fun _ => id, .refl _⟩

end Desk

/-- What the holder of the lock may do. Nothing is forgotten; only a switch changes what the session
was asked, and only to what it says; only a switch back to writing lets writes through, and not
before it has made up its mind. -/
structure Guards (foreign : Handle → Prop) (duty : Duty) (t : List (Change Desk))
    (e : Change Desk) : Prop where
  lone : e.before.Lone → e.after.Lone
  journal : ∀ deed ∈ e.before.session.journal, deed ∈ e.after.session.journal
  asked : e.after.session.outage.readOnlyRequested = e.before.session.outage.readOnlyRequested ∨
    ∃ readOnly, duty = .request (.switchReadOnly readOnly) ∧
      e.after.session.outage.readOnlyRequested = readOnly
  guarded : duty ≠ .request (.switchReadOnly false) → e.before.Lone →
    e.before.Guarded foreign → e.after.Guarded foreign
  ready : duty = .request (.switchReadOnly false) →
    e.before.Marked foreign ∨ ∃ x t', t = x :: t' ∧ x.own = true

theorem Guards.of_bystands {foreign : Handle → Prop} {duty : Duty} {t : List (Change Desk)}
    {now : Nat} {d d' : Desk} (h : Bystands foreign d d') (hd : d.Marked foreign) :
    Guards foreign duty t ⟨true, now, d, d'⟩ :=
  ⟨h.lone, h.journal, .inl h.asked, fun _ => h.guarded, fun _ => .inl hd⟩

def guard (foreign : Handle → Prop) : House where
  lockFree := Bystands foreign
  own := Guards foreign
  inOrder := Marked foreign
  always := Lone

end Failover

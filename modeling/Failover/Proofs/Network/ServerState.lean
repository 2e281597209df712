import Failover.Proofs.Routine.Ensures

/-!
How the servers stand: which can be reached, in which role, and what calls answer while no server
changes and no trouble comes up.
-/
namespace Failover

namespace Network

/-- Whether a server is up, whether it takes writes, and how often it was stopped. -/
def standing (n : Network) (e : Endpoint) : Option (Bool × Bool × Nat) :=
  (n.cluster.find? e).map fun s => (s.up, s.writable, s.generation)

/-- The role in which a host serves now, if it can be reached. -/
def role? (mode : Mode) (h : Host) (n : Network) : Option Role :=
  ((n.cluster.find? h.endpoint).filter (·.up)).map fun s =>
    if mode.discoversRoles then if s.writable then .primary else .replica else h.role

/-- No call meets trouble, though it may be delayed. -/
def Calm (n : Network) : Prop := ∀ x ∈ n.disturbances, x.2.trouble = none ∨ x.2.times = 0

instance (n : Network) : Decidable n.Calm :=
  inferInstanceAs (Decidable (∀ x ∈ n.disturbances, x.2.trouble = none ∨ x.2.times = 0))

structure SameServers (n n' : Network) : Prop where
  standing : ∀ e, n'.standing e = n.standing e
  calm : n.Calm → n'.Calm

/-- The servers stand as they did, and every connection is still the same one to the same host. -/
structure Steady (n n' : Network) : Prop extends SameServers n n' where
  size : n.connections.size ≤ n'.connections.size
  host : ∀ h < n.connections.size, (n'.connection h).host = (n.connection h).host
  generation : ∀ h < n.connections.size,
    (n'.connection h).generation = (n.connection h).generation
  closed : ∀ h < n.connections.size, (n'.connection h).closed = (n.connection h).closed

theorem SameServers.refl (n : Network) : SameServers n n := ⟨fun _ => rfl, id⟩

theorem SameServers.trans {n n' n'' : Network} (h : SameServers n n') (h' : SameServers n' n'') :
    SameServers n n'' :=
  ⟨fun e => (h'.standing e).trans (h.standing e), h'.calm ∘ h.calm⟩

theorem SameServers.of_eq {n n' : Network} (hc : n'.cluster = n.cluster)
    (hd : n'.disturbances = n.disturbances) : SameServers n n' :=
  ⟨fun e => by rw [Network.standing, Network.standing, hc], fun h => by rwa [Calm, hd]⟩

theorem Steady.refl (n : Network) : Steady n n :=
  ⟨.refl n, Nat.le_refl _, fun _ _ => rfl, fun _ _ => rfl, fun _ _ => rfl⟩

theorem Steady.trans {n n' n'' : Network} (h : Steady n n') (h' : Steady n' n'') :
    Steady n n'' :=
  ⟨h.toSameServers.trans h'.toSameServers, Nat.le_trans h.size h'.size,
    fun c hc => (h'.host c (Nat.lt_of_lt_of_le hc h.size)).trans (h.host c hc),
    fun c hc => (h'.generation c (Nat.lt_of_lt_of_le hc h.size)).trans (h.generation c hc),
    fun c hc => (h'.closed c (Nat.lt_of_lt_of_le hc h.size)).trans (h.closed c hc)⟩

theorem Steady.of_amid {n n' : Network} {t t' : List (Change Network)}
    (h : Amid Steady t n t' n') : Steady n n' :=
  h.preserves (P := fun _ m => Steady n m) (fun _ _ _ _ hn ho => hn.trans ho) (.refl n)

theorem role?_eq_of_standing (mode : Mode) {h : Host} {n n' : Network}
    (hs : n'.standing h.endpoint = n.standing h.endpoint) : n'.role? mode h = n.role? mode h := by
  unfold standing at hs
  unfold role?
  cases hn : n.cluster.find? h.endpoint <;> cases hn' : n'.cluster.find? h.endpoint <;>
    simp_all [Option.filter]

theorem steady_meet (e : Endpoint) (c : Call) (n : Network) : Steady n (n.meet e c).2 := by
  unfold meet
  split
  · exact .refl n
  · split
    · exact .refl n
    · refine ⟨⟨fun _ => rfl, fun hcalm x hx => ?_⟩, Nat.le_refl _, fun _ _ => rfl, fun _ _ => rfl,
        fun _ _ => rfl⟩
      obtain ⟨y, hy, rfl⟩ := List.mem_map.1 hx
      have := hcalm y hy
      split
      · exact this.imp_right fun h0 => by simp [h0]
      · exact this

theorem trouble_of_calm {n : Network} (h : n.Calm) (e : Endpoint) (c : Call) :
    (n.meet e c).1.2 = none := by
  unfold meet
  split
  · rfl
  · rename_i d hd
    have hmem : ((e, c), d) ∈ n.disturbances := by
      obtain ⟨l₁, l₂, hl, -⟩ := List.lookup_eq_some_iff.1 hd
      rw [hl]
      simp
    split
    · rfl
    · exact (h _ hmem).resolve_right ‹_›

theorem standing_update {f : Server → Server} (n : Network) (e : Endpoint)
    (hf : ∀ s, ((f s).up, (f s).writable, (f s).generation) = (s.up, s.writable, s.generation))
    (e' : Endpoint) :
    ({ n with cluster := n.cluster.update e f } : Network).standing e' = n.standing e' := by
  unfold standing
  by_cases he : e' = e
  · subst he
    simp only [Cluster.find?_update_self, Option.map_map]
    exact congrArg (Option.map · _) (funext hf)
  · rw [Cluster.find?_update_of_ne _ he]

theorem sameServers_connect (host : Host) (n : Network) : SameServers n (n.connect host).2 := by
  unfold connect
  split
  · exact .refl n
  · have hstanding (e : Endpoint) : ({ n with
        cluster := n.cluster.update host.endpoint fun s =>
          { s with connectAttempts := s.connectAttempts + 1 } } : Network).standing e =
        n.standing e :=
      standing_update n host.endpoint (fun _ => by rfl) e
    dsimp only
    split
    · exact ⟨hstanding, id⟩
    · exact ⟨hstanding, id⟩

theorem sameServers_record (h : Handle) (statement : String) (n : Network) :
    SameServers n (n.record h statement) :=
  ⟨standing_update n _ fun _ => by rfl, id⟩

theorem sameServers_updateBlacklist (r : Registry) (f : Blacklist → Blacklist) (n : Network) :
    SameServers n (n.updateBlacklist r f) := by
  cases r <;> exact .of_eq rfl rfl

theorem sameServers_updateConnection (h : Handle) (f : Connection → Connection) (n : Network) :
    SameServers n (n.updateConnection h f) :=
  .of_eq rfl rfl

theorem sameServers_check (h : Handle) (n : Network) : SameServers n (n.check h).2 := by
  unfold check
  split
  · exact .refl n
  · exact sameServers_updateConnection h _ n

structure Linked (host : Host) (h : Handle) (n : Network) : Prop where
  opened : h < n.connections.size
  target : (n.connection h).host = host
  closed : (n.connection h).closed = false
  standing : ∃ w, n.standing host.endpoint = some (true, w, (n.connection h).generation)

theorem Linked.steady {host : Host} {h : Handle} {n n' : Network} (hl : Linked host h n)
    (hs : Steady n n') : Linked host h n' := by
  obtain ⟨w, hw⟩ := hl.standing
  refine ⟨Nat.lt_of_lt_of_le hl.opened hs.size, (hs.host h hl.opened).trans hl.target,
    (hs.closed h hl.opened).trans hl.closed, w, ?_⟩
  rw [hs.generation h hl.opened, hs.standing, hw]

theorem Linked.server {host : Host} {h : Handle} {n : Network} (hl : Linked host h n) :
    ∃ s, n.server h = .ok s ∧ n.cluster.find? host.endpoint = some s ∧ s.up = true := by
  obtain ⟨w, hw⟩ := hl.standing
  obtain ⟨s, hs, heq⟩ := Option.map_eq_some_iff.1 hw
  simp only [Prod.mk.injEq] at heq
  refine ⟨s, ?_, hs, heq.1⟩
  simp [Network.server, hl.closed, hl.target, hs, heq.1, heq.2.2, Option.filter]

theorem connect_linked (mode : Mode) (host : Host) (n : Network) :
    (∃ h, (n.connect host).1 = .ok h ∧ Linked host h (n.connect host).2) ∨
      (∃ e, (n.connect host).1 = .error e) ∧ n.role? mode host = none := by
  have hsame := (sameServers_connect host n).standing host.endpoint
  cases hs : n.cluster.find? host.endpoint with
  | none => exact .inr ⟨by simp [connect, hs], by simp [role?, hs]⟩
  | some s =>
    cases hup : s.up with
    | false => exact .inr ⟨by simp [connect, hs, hup], by simp [role?, hs, hup, Option.filter]⟩
    | true =>
      refine .inl ⟨n.connections.size, by simp [connect, hs, hup], ?_⟩
      have hconn : (n.connect host).2.connection n.connections.size =
          { host, generation := s.generation, lastPrimary := s.writable } := by
        simp [connect, hs, hup, connection]
      refine ⟨by simp [connect, hs, hup], by rw [hconn], by rw [hconn], s.writable, ?_⟩
      rw [hsame, hconn]
      simp [standing, hs, hup]

end Network

namespace Calls
open Network
variable {ℓ κ : Type} {ρ : Rules Network} {t : List (Change Network)} {n n₀ : Network}

/-- The rule of calls: what is so once the delay is over decides, by the call itself where there was
no trouble. -/
theorem ensures_onHost {α : Type} {c : Call} {host : Host} {no : Option α}
    {real : Network → Except Error α × Network} {Q : Except Error α → List (Change Network) →
      Network → Prop} {F : List (Change Network) → Network → Prop}
    (meet : ∀ now, ρ.own t ⟨true, now, n, (n.meet host.endpoint c).2⟩ ∧
      ∀ t' n', Amid ρ.others (⟨true, now, n, (n.meet host.endpoint c).2⟩ :: t)
        (n.meet host.endpoint c).2 t' n' → F t' n')
    (call : ∀ t n, F t n → ∀ now, ρ.own t ⟨true, now, n, (real n).2⟩ ∧
      Q (real n).1 (⟨true, now, n, (real n).2⟩ :: t) (real n).2)
    (trouble : (n.meet host.endpoint c).1.2 ≠ none → ∀ t n, F t n →
      (∀ e, Q (.error e) t n) ∧ ∀ a, no = some a → Q (.ok a) t n) :
    (onHost c host no real : NetRoutine ℓ κ (Except Error α)).Ensures ρ Q t n := by
  refine Routine.ensures_bind.2 (Routine.ensures_transact.2 fun now => ⟨(meet now).1, ?_⟩)
  refine Routine.ensures_bind.2 (Routine.ensures_pause fun t' n' ho => ?_)
  have hf := (meet now).2 t' n' ho
  have hcall : (Routine.transact fun _ n => real n : NetRoutine ℓ κ _).Ensures ρ Q t' n' :=
    Routine.ensures_transact.2 (call t' n' hf)
  cases htr : (n.meet host.endpoint c).1.2 with
  | none => exact hcall
  | some x =>
    obtain ⟨herror, hok⟩ := trouble (by simp [htr]) t' n' hf
    cases x with
    | io => exact herror _
    | connectivity => exact herror _
    | query => exact herror _
    | refusal =>
      cases no with
      | none => exact hcall
      | some a => exact hok a rfl

theorem ensures_onHost_of_calm {α : Type} {c : Call} {host : Host} {no : Option α}
    {real : Network → Except Error α × Network} {Q : Except Error α → List (Change Network) →
      Network → Prop} (hcalm : n.Calm)
    (call : ∀ t' n', Steady n n' → Q (real n').1 t' (real n').2) :
    (onHost c host no real : NetRoutine ℓ κ (Except Error α)).Ensures ⟨Steady, fun _ _ => True⟩ Q
      t n := by
  refine ensures_onHost (F := fun _ n' => Steady n n') (fun now => ⟨trivial, fun t' n' ho => ?_⟩)
    (fun t' n' hs now => ⟨trivial, call _ n' hs⟩)
    (fun htr => (htr (trouble_of_calm hcalm host.endpoint c)).elim)
  exact (steady_meet host.endpoint c n).trans (.of_amid ho)

theorem ensures_connect {host : Host} (mode : Mode) (hcalm : n₀.Calm) (hn : SameServers n₀ n) :
    (connect host : NetRoutine ℓ κ (Except Error Handle)).Ensures ⟨Steady, fun _ _ => True⟩
      (fun x _ n => SameServers n₀ n ∧ match x with
        | .error _ => n₀.role? mode host = none
        | .ok h => Linked host h n) t n := by
  refine ensures_onHost_of_calm (hn.calm hcalm) fun t' n' hs => ?_
  have hsame := hn.trans hs.toSameServers
  refine ⟨hsame.trans (sameServers_connect host n'), ?_⟩
  rcases connect_linked mode host n' with ⟨h, he, hl⟩ | ⟨⟨e, he⟩, hr⟩
  · simpa only [he] using hl
  · rw [he]
    rwa [role?_eq_of_standing mode (hsame.standing host.endpoint)] at hr

theorem ensures_role {host : Host} {h : Handle} {mode : Mode}
    (hrole : mode.roleOf host.role = host.role) (hcalm : n₀.Calm) (hn : SameServers n₀ n)
    (hl : Linked host h n) :
    (role mode.discoversRoles h : NetRoutine ℓ κ (Except Error Role)).Ensures
      ⟨Steady, fun _ _ => True⟩
      (fun x _ n => SameServers n₀ n ∧ ∃ role, x = .ok role ∧ n₀.role? mode host = some role)
      t n := by
  refine Routine.ensures_thenOk.2 ?_
  split
  · rename_i hd
    refine Routine.ensures_bind.2 (Routine.ensures_read.2 fun now => ⟨trivial, ?_⟩)
    refine ensures_onHost_of_calm (hn.calm hcalm) fun t' n' hs => ?_
    obtain ⟨s, hserver, hfind, hup⟩ := (hl.steady hs).server
    have hsame := hn.trans hs.toSameServers
    have hcheck : (n'.check h).1 = .ok s.writable := by simp [Network.check, hserver]
    rw [hcheck]
    refine ⟨hsame.trans (sameServers_check h n'), _, rfl, ?_⟩
    rw [← role?_eq_of_standing mode (hsame.standing host.endpoint)]
    simp [role?, hfind, hup, hd, Option.filter]
  · rename_i hd
    refine Routine.ensures_read.2 fun now => ⟨trivial, hn, _, rfl, ?_⟩
    obtain ⟨s, -, hfind, hup⟩ := hl.server
    rw [← role?_eq_of_standing mode (hn.standing host.endpoint)]
    simp only [role?, hfind, hup, hd, Option.filter, Connection.isPrimary, hl.target]
    cases hr : host.role with
    | primary => simp
    | replica => simp
    | unset =>
      rw [hr] at hrole
      have hmode : mode ≠ .aurora := by
        intro he
        subst he
        exact hd rfl
      exact (Mode.roleOf_ne_unset hmode _ hrole).elim

end Calls
end Failover

import Failover.Proofs.Network.CallEffects
import Failover.Proofs.Session.RetryRound
import Failover.Proofs.Session.SendCount

/-!
What servers notice of a session is in its journal. Statements that a sending has noted come under
the one entry of that sending, and no server counts more attempts to connect than a search has
entered.
-/
namespace Failover
open Routine

/-- The attempts to connect that the server at an endpoint has counted. -/
def Network.attempts (e : Endpoint) (n : Network) : Nat :=
  (n.cluster.find? e).elim 0 (·.connectAttempts)

/-- The attempts that a server counts through a routine's own changes, by its log. -/
def attempted (e : Endpoint) : List (Change Network) → Nat
  | [] => 0
  | x :: t => (if x.own then x.after.attempts e - x.before.attempts e else 0) + attempted e t

def Change.dial? (x : Change Desk) : Option Host :=
  match x.own, x.after.session.journal with
  | true, .connect host :: earlier =>
    if earlier = x.before.session.journal then some host else none
  | _, _ => none

/-- The attempts to connect to an endpoint that a routine enters into the journal, by its log. -/
def entered (e : Endpoint) (t : List (Change Desk)) : Nat :=
  (t.filterMap Change.dial?).countP (·.endpoint = e)

/-- From one log to a later one so many attempts more are entered, at least, than a server counts.
-/
def Covered (e : Endpoint) (spare : Nat) (t t' : List (Change Desk)) : Prop :=
  attempted e (t'.map (Change.map Desk.network)) + entered e t + spare ≤
    attempted e (t.map (Change.map Desk.network)) + entered e t'

namespace Network
variable {e : Endpoint}

def Undialled (n n' : Network) : Prop := ∀ e, n'.attempts e = n.attempts e

theorem undialled_of_cluster {n n' : Network} (h : n'.cluster = n.cluster) : Undialled n n' := by
  intro e
  rw [attempts, h, attempts]

theorem undialled_record (h : Handle) (s : String) (n : Network) : Undialled n (n.record h s) := by
  intro e
  unfold attempts record
  by_cases he : e = (n.connection h).host.endpoint
  · subst he
    rw [Cluster.find?_update_self]
    cases n.cluster.find? (n.connection h).host.endpoint <;> rfl
  · rw [Cluster.find?_update_of_ne _ he]

instance : AllowsCalls Undialled :=
  ⟨fun _ _ => rfl, fun h h' e => (h' e).trans (h e),
    fun c e n => undialled_of_cluster (Calls.cluster_meet e c n), undialled_record,
    fun _ _ _ _ => undialled_of_cluster rfl⟩

instance : AllowsSettings Undialled := ⟨fun _ _ _ => undialled_of_cluster rfl⟩

theorem attempts_connect (host : Host) (n : Network) :
    (n.connect host).2.attempts e ≤ n.attempts e + if host.endpoint = e then 1 else 0 := by
  unfold connect
  split
  · exact Nat.le_add_right _ _
  · rename_i s hs
    have hone : ({ n with cluster := n.cluster.update host.endpoint fun s =>
        { s with connectAttempts := s.connectAttempts + 1 } } : Network).attempts e ≤
        n.attempts e + if host.endpoint = e then 1 else 0 := by
      unfold attempts
      by_cases he : host.endpoint = e
      · subst he
        simp [Cluster.find?_update_self, hs]
      · simp [Cluster.find?_update_of_ne _ (Ne.symm he)]
    dsimp only
    split <;> exact hone

end Network

section Covered
variable {e : Endpoint} {spare : Nat} {t t' : List (Change Desk)} {x : Change Desk}

theorem attempted_cons_of_undialled {x : Change Network}
    (hx : x.own = true → x.before.Undialled x.after) (t : List (Change Network)) :
    attempted e (x :: t) = attempted e t := by
  rw [attempted]
  split
  · rename_i ho
    rw [hx ho e, Nat.sub_self, Nat.zero_add]
  · exact Nat.zero_add _

theorem entered_le_cons (e : Endpoint) (x : Change Desk) (t : List (Change Desk)) :
    entered e t ≤ entered e (x :: t) := by
  unfold entered
  rw [List.filterMap_cons]
  split
  · exact Nat.le_refl _
  · rw [List.countP_cons]
    exact Nat.le_add_right _ _

theorem Covered.refl (e : Endpoint) (t : List (Change Desk)) : Covered e 0 t t := Nat.le_refl _

theorem Covered.cons (h : Covered e spare t t')
    (hx : x.own = true → x.before.network.Undialled x.after.network) :
    Covered e spare t (x :: t') := by
  unfold Covered at h ⊢
  rw [List.map_cons, attempted_cons_of_undialled (x := x.map Desk.network) hx]
  exact Nat.le_trans h (Nat.add_le_add_left (entered_le_cons e x t') _)

theorem Covered.note (h : Covered e 0 t t') (host : Host) (now : Nat) (d : Desk) :
    Covered e (if host.endpoint = e then 1 else 0) t
      (⟨true, now, d, { d with session :=
        { d.session with journal := .connect host :: d.session.journal } }⟩ :: t') := by
  have hentered : entered e (⟨true, now, d, { d with session :=
      { d.session with journal := .connect host :: d.session.journal } }⟩ :: t') =
      entered e t' + if host.endpoint = e then 1 else 0 := by
    simp [entered, Change.dial?, List.countP_cons]
  unfold Covered at h ⊢
  rw [hentered, List.map_cons, attempted_cons_of_undialled fun _ => Network.undialled_of_cluster rfl]
  omega

end Covered

namespace Calls
variable {ℓ κ : Type} {others : Network → Network → Prop} {e : Endpoint}
  {t : List (Change Network)} {n : Network}

theorem ensures_attempt (host : Host) :
    (connect host : NetRoutine ℓ κ (Except Error Handle)).Ensures ⟨others, fun _ _ => True⟩
      (fun _ t' _ => attempted e t' ≤ attempted e t + if host.endpoint = e then 1 else 0) t n := by
  refine ensures_onHost (F := fun t' _ => attempted e t' = attempted e t)
    (fun now => ⟨trivial, fun t' n' ho => ?_⟩) (fun t' n' hf now => ⟨trivial, ?_⟩)
    (fun _ t' n' hf => ⟨fun _ => hf ▸ Nat.le_add_right _ _, fun _ hno => by cases hno⟩)
  · refine ho.preserves (P := fun t' _ => attempted e t' = attempted e t) (fun _ _ _ _ hf _ => ?_) ?_
    · rw [attempted_cons_of_undialled (fun hown => by cases hown), hf]
    · exact attempted_cons_of_undialled
        (fun _ => Network.undialled_of_cluster (cluster_meet host.endpoint .connect n)) t
  · have hone := Network.attempts_connect (e := e) host n'
    rw [attempted, hf, if_pos rfl]
    dsimp only
    omega

end Calls

namespace Act
open Search
variable {others : Desk → Desk → Prop} {e : Endpoint} {t t' : List (Change Desk)} {d : Desk}

theorem attempts_none {α : Type} {r : Act α}
    (hr : r.Steps fun d d' => d.network.Undialled d'.network) :
    r.Ensures (anything others) (fun _ t' _ => attempted e (t'.map (Change.map Desk.network)) =
      attempted e (t.map (Change.map Desk.network))) t d := by
  refine hr.ensures (F := fun t' _ => attempted e (t'.map (Change.map Desk.network)) =
    attempted e (t.map (Change.map Desk.network))) (fun _ _ _ _ hf _ => ?_)
    (fun _ _ _ _ hf hs => ⟨trivial, ?_⟩) rfl
  · rwa [List.map_cons, attempted_cons_of_undialled fun hown => by cases hown]
  · rwa [List.map_cons, attempted_cons_of_undialled fun _ => hs]

theorem covers {α : Type} {r : Act α} (hr : r.Steps fun d d' => d.network.Undialled d'.network)
    {spare : Nat} (h : Covered e spare t t') :
    r.Ensures (anything others) (fun _ t'' _ => Covered e spare t t'') t' d :=
  hr.ensures (F := fun t'' _ => Covered e spare t t'')
    (fun _ _ _ _ hf _ => hf.cons fun hown => by cases hown)
    (fun _ _ _ _ hf hs => ⟨trivial, hf.cons fun _ => hs⟩) h

theorem undialled_onNetwork {α : Type} {r : NetRoutine Unit Errand α}
    (h : r.Steps Network.Undialled) :
    (onNetwork r).Steps fun d d' => d.network.Undialled d'.network := by
  refine Steps.embed (fun d n hs => ?_) h
  exact hs

theorem undialled_found (role : Role) (h : Handle) :
    (found role h).Steps fun d d' => d.network.Undialled d'.network := by
  refine Finds.found ⟨fun _ _ => rfl, fun a b => ?_, fun h f => ?_, fun h => ?_, fun h => ?_,
    fun _ _ _ _ => rfl, fun _ _ _ _ => rfl⟩ role h
  · exact ((steps_change fun _ _ _ => rfl).bind fun _ =>
      undialled_onNetwork (Carryover.keeps_sync a b)).discard
  · exact undialled_onNetwork (steps_change fun _ n => Network.undialled_of_cluster rfl)
  · exact undialled_onNetwork (Carryover.keeps_setReadOnly h true)
  · exact undialled_onNetwork (steps_change fun _ n => Network.undialled_of_cluster rfl)

theorem undialled_prober (s : Session) (x : Except Error Handle) :
    AllSteps (fun d d' => d.network.Undialled d'.network)
      { prober s with connect := fun _ => .done x } where
  draw _ := undialled_onNetwork (steps_transact fun _ _ => Network.undialled_of_cluster rfl)
  connect _ := trivial
  role _ := undialled_onNetwork (Calls.keeps_role _ _)
  close _ := undialled_onNetwork (steps_change fun _ _ => Network.undialled_of_cluster rfl)
  exclude _ := undialled_onNetwork
    (steps_change fun _ _ => Network.undialled_of_cluster (Network.cluster_updateBlacklist ..))
  found := undialled_found

theorem covered_connect (s : Session) (host : Host) (h : Covered e 0 t t') :
    ((prober s).connect host).Ensures (anything others) (fun _ t'' _ => Covered e 0 t t'') t' d := by
  have hnote : (note (.connect host)).Ensures (anything others)
      (fun _ t₁ _ => Covered e (if host.endpoint = e then 1 else 0) t t₁) t' d :=
    ensures_change.2 fun now => ⟨trivial, h.note host now d⟩
  refine hnote.bind fun _ t₁ d₁ h => ?_
  have hattempt (t : List (Change Network)) : (Calls.connect host : NetRoutine Unit Errand _).Ensures
      ⟨fun _ _ => True, fun _ _ => True⟩ (fun _ t' _ =>
        attempted e t' ≤ attempted e t + if host.endpoint = e then 1 else 0) t d₁.network :=
    Calls.ensures_attempt host
  refine Ensures.mono (Ensures.embed (F := fun t₂ _ => entered e t₁ ≤ entered e t₂)
    (fun _ _ => rfl) ?_ ?_ ?_ (Nat.le_refl _) (hattempt _)) fun _ t₂ _ hd => ?_
  · exact fun _ _ _ => trivial
  · exact fun t _ _ _ hf _ => Nat.le_trans hf (entered_le_cons e _ t)
  · exact fun t _ _ _ hf _ => ⟨trivial, Nat.le_trans hf (entered_le_cons e _ t)⟩
  · obtain ⟨hattempted, hentered⟩ := hd
    unfold Covered at h ⊢
    omega

theorem covered_probe (s : Session) (needs : Needs) (host : Host) (h : Covered e 0 t t') :
    (probe (prober s) needs host).Ensures (anything others) (fun _ t'' _ => Covered e 0 t t'')
      t' d :=
  (covered_connect s host h).bind fun x _ _ h =>
    covers (r := probe { prober s with connect := fun _ => .done x } needs host)
      (steps_probe (undialled_prober s x) needs host) h

theorem covered_search (needs : Needs) {d₀ : Desk} :
    (search needs).Ensures (anything others) (fun _ t' _ => Covered e 0 t t') t d₀ := by
  refine ensures_bind.2 (ensures_change.2 fun now => ⟨trivial, ?_⟩)
  refine ensures_bind.2 (ensures_change.2 fun now => ⟨trivial, ?_⟩)
  refine ensures_bind.2 (ensures_read.2 fun now => ⟨trivial, ?_⟩)
  refine ensures_bind.2 (ensures_read.2 fun now => ⟨trivial, ?_⟩)
  refine ensures_twoPass (P := fun t' _ => Covered e 0 t t') (fun size t' d h => ?_)
    (fun needs host t' d h => ?_) _ _ needs ?_
  · exact covers ((undialled_prober d₀.session (.ok 0)).draw size) h
  · refine (covered_probe _ needs host h).mono fun x t' d h => ?_
    cases x with
    | none => exact h
    | some hit => exact covers (undialled_found hit.1 hit.2) h
  · refine ((((Covered.refl e t).cons fun _ _ => rfl).cons fun _ => ?_).cons fun _ _ => rfl).cons
      fun _ _ => rfl
    exact Network.undialled_of_cluster (Network.cluster_updateBlacklist ..)

/-- All that servers notice of a sending and of a search is in the journal: a sending enters itself
and has only its own statements noted, without an attempt to connect anywhere; a search enters every
attempt that some server counts, and sends no operation. -/
theorem journal_covers (others : Desk → Desk → Prop) (t : List (Change Desk)) (d : Desk) :
    (∀ h op r t' d', (invoke h op).Plays others t d r t' d' →
      sendings t' = (h, op) :: sendings t ∧ Transmitted h op t t' ∧ ∀ e,
        attempted e (t'.map (Change.map Desk.network)) =
          attempted e (t.map (Change.map Desk.network))) ∧
    ∀ needs o t' d', (search needs).Plays others t d o t' d' →
      sendings t' = sendings t ∧ ∀ e,
        attempted e (t'.map (Change.map Desk.network)) + entered e t ≤
          attempted e (t.map (Change.map Desk.network)) + entered e t' := by
  refine ⟨fun h op r t' d' hplay => ⟨?_, ?_, fun e => ?_⟩,
    fun needs o t' d' hplay => ⟨?_, fun e => ?_⟩⟩
  · exact sendings_of_sent ⟨t, d, d', .refl t, hplay⟩
  · exact (ensures_transmitted h op).plays hplay
  · have hsteps : (invoke h op).Steps fun d d' => d.network.Undialled d'.network :=
      (steps_change fun _ _ _ => rfl).bind fun _ =>
        undialled_onNetwork (Calls.keeps_invoke h op)
    exact (attempts_none hsteps).plays hplay
  · exact sendings_of_quiet ((ensures_quiet (unsent_search needs) (.refl t)).plays hplay)
  · exact (covered_search needs).plays hplay

end Act
end Failover

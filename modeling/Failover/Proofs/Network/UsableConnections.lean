import Failover.Proofs.Session.Order
import Failover.Proofs.Session.Statements

/-!
A connection that is usable answers: a ping of it succeeds, and an operation that is sent over it
ends with an answer of the server.
-/
namespace Failover
open Routine

/-- Between two logs there was a moment at which it was not so. -/
def Lapsed {σ : Type} (p : σ → Prop) (t t' : List (Change σ)) : Prop :=
  ∃ e u, e :: u <:+ t' ∧ t <:+ u ∧ ¬p e.before

section Lapsed
variable {σ τ : Type} {p : σ → Prop} {t t₁ t' : List (Change σ)}

theorem Lapsed.last {e : Change σ} (h : t <:+ t') (he : ¬p e.before) : Lapsed p t (e :: t') :=
  ⟨e, t', List.suffix_refl _, h, he⟩

theorem Lapsed.cons (h : Lapsed p t t') (e : Change σ) : Lapsed p t (e :: t') := by
  obtain ⟨x, u, hx, hu, hp⟩ := h
  exact ⟨x, u, hx.trans (List.suffix_cons e t'), hu, hp⟩

theorem Lapsed.since (h : Lapsed p t₁ t') (ht : t <:+ t₁) : Lapsed p t t' := by
  obtain ⟨x, u, hx, hu, hp⟩ := h
  exact ⟨x, u, hx, ht.trans hu, hp⟩

theorem Lapsed.upTo (h : Lapsed p t t₁) (ht : t₁ <:+ t') : Lapsed p t t' := by
  obtain ⟨x, u, hx, hu, hp⟩ := h
  exact ⟨x, u, hx.trans ht, hu, hp⟩

theorem not_lapsed (h : ∀ e ∈ t', p e.before) : ¬Lapsed p t t' := by
  rintro ⟨e, u, he, -, hp⟩
  exact hp (h e (he.subset List.mem_cons_self))

theorem Lapsed.imp {q : σ → Prop} (hpq : ∀ s, q s → p s) (h : Lapsed p t t') : Lapsed q t t' := by
  obtain ⟨x, u, hx, hu, hp⟩ := h
  exact ⟨x, u, hx, hu, fun hq => hp (hpq _ hq)⟩

theorem Lapsed.of_map {get : τ → σ} {t t' : List (Change τ)} (hs : t <:+ t')
    (h : Lapsed p (t.map (Change.map get)) (t'.map (Change.map get))) :
    Lapsed (fun u => p (get u)) t t' := by
  obtain ⟨x, u, hx, hu, hp⟩ := h
  obtain ⟨es, hes⟩ := hx
  obtain ⟨l, l', rfl, -, hl⟩ := List.map_eq_append_iff.1 hes.symm
  obtain ⟨e, u', rfl, rfl, rfl⟩ := List.map_eq_cons_iff.1 hl
  refine ⟨e, u', List.suffix_append l _, ?_, hp⟩
  have hlen : t.length ≤ u'.length := by simpa using hu.length_le
  exact List.suffix_of_suffix_length_le hs
    ((List.suffix_cons e u').trans (List.suffix_append l _)) hlen

end Lapsed

namespace Network

/-- The connection is open, its server has not been down since it was opened, and such a call over
it meets no trouble. -/
structure Answers (c : Call) (h : Handle) (n : Network) : Prop where
  server : ∃ s, n.server h = .ok s
  undisturbed : (n.meet (n.connection h).host.endpoint c).1.2 = none

/-- The connection is open, its server has not been down since it was opened, and calls over it meet
no trouble. -/
structure Usable (h : Handle) (n : Network) : Prop where
  server : ∃ s, n.server h = .ok s
  undisturbed : ∀ c, (n.meet (n.connection h).host.endpoint c).1.2 = none

instance (c : Call) (h : Handle) (n : Network) : Decidable (n.Answers c h) :=
  decidable_of_iff ((n.server h).toOption.isSome = true ∧
      (n.meet (n.connection h).host.endpoint c).1.2 = none) <| by
    refine ⟨fun hd => ⟨?_, hd.2⟩, fun ha => ⟨?_, ha.undisturbed⟩⟩
    · cases hs : n.server h with
      | error e => simp [hs, Except.toOption] at hd
      | ok s => exact ⟨s, rfl⟩
    · obtain ⟨s, hs⟩ := ha.server
      rw [hs]
      rfl

theorem Usable.answers {h : Handle} {n : Network} (hu : n.Usable h) (c : Call) : n.Answers c h :=
  ⟨hu.server, hu.undisturbed c⟩

instance (h : Handle) (n : Network) : Decidable (n.Usable h) :=
  decidable_of_iff (∀ c ∈ [Call.connect, .ping, .check, .exec, .isolation, .database],
      n.Answers c h) <| by
    refine ⟨fun hd => ⟨(hd .ping (by simp)).server, fun c => ?_⟩, fun hu c _ => hu.answers c⟩
    exact (hd c (by cases c <;> simp)).undisturbed

end Network

namespace Calls
variable {ℓ κ α : Type} {others : Network → Network → Prop} {t : List (Change Network)}
  {n : Network} {h : Handle}

theorem answers_onHandle {c : Call} {no : Option α} {real : Network → Except Error α × Network}
    {R : Except Error α → Prop} (hreal : ∀ n s, n.server h = .ok s → R (real n).1) :
    (onHandle c h no real : NetRoutine ℓ κ (Except Error α)).Ensures ⟨others, fun _ _ => True⟩
      (fun r t' _ => t <:+ t' ∧ (R r ∨ Lapsed (Network.Answers c h) t t')) t n := by
  refine ensures_bind.2 (ensures_read.2 fun now => ⟨trivial, ?_⟩)
  refine ensures_onHost (F := fun t' _ => ∃ e u, e :: u <:+ t' ∧ t <:+ u ∧ e.before = n)
    (fun now' => ⟨trivial, fun t' n' ho => ?_⟩) (fun t' n' hf now' => ⟨trivial, ?_⟩)
    (fun htrouble t' n' hf => ?_)
  · refine ho.preserves (P := fun t' _ => ∃ e u, e :: u <:+ t' ∧ t <:+ u ∧ e.before = n)
      (fun t' _ _ _ hd _ => ?_) ⟨_, _, List.suffix_refl _, List.suffix_cons _ t, rfl⟩
    obtain ⟨e, u, he, hu, hn⟩ := hd
    exact ⟨e, u, he.trans (List.suffix_cons _ t'), hu, hn⟩
  · obtain ⟨e, u, he, hu, -⟩ := hf
    have hgrown : t <:+ t' := (hu.trans (List.suffix_cons e u)).trans he
    refine ⟨hgrown.trans (List.suffix_cons _ t'), ?_⟩
    by_cases hp : n'.Answers c h
    · obtain ⟨s, hs⟩ := hp.server
      exact .inl (hreal n' s hs)
    · exact .inr (.last hgrown hp)
  · obtain ⟨e, u, he, hu, rfl⟩ := hf
    have hlapsed : Lapsed (Network.Answers c h) t t' :=
      ⟨e, u, he, hu, fun hp => htrouble hp.undisturbed⟩
    have hgrown : t <:+ t' := (hu.trans (List.suffix_cons e u)).trans he
    exact ⟨fun _ => ⟨hgrown, .inr hlapsed⟩, fun _ _ => ⟨hgrown, .inr hlapsed⟩⟩

theorem usable_onHandle {c : Call} {no : Option α} {real : Network → Except Error α × Network}
    {R : Except Error α → Prop} (hreal : ∀ n s, n.server h = .ok s → R (real n).1) :
    (onHandle c h no real : NetRoutine ℓ κ (Except Error α)).Ensures ⟨others, fun _ _ => True⟩
      (fun r t' _ => t <:+ t' ∧ (R r ∨ Lapsed (Network.Usable h) t t')) t n :=
  (answers_onHandle hreal).mono fun _ _ _ hd =>
    ⟨hd.1, hd.2.imp_right (·.imp fun _ hu => hu.answers c)⟩

theorem answers_ping : (ping h : NetRoutine ℓ κ (Except Error Bool)).Ensures
    ⟨others, fun _ _ => True⟩
    (fun r t' _ => t <:+ t' ∧ (r = .ok true ∨ Lapsed (Network.Answers .ping h) t t')) t n := by
  refine answers_onHandle fun n s hs => ?_
  rw [Network.ping, hs]
  rfl

theorem usable_ping : (ping h : NetRoutine ℓ κ (Except Error Bool)).Ensures
    ⟨others, fun _ _ => True⟩
    (fun r t' _ => t <:+ t' ∧ (r = .ok true ∨ Lapsed (Network.Usable h) t t')) t n :=
  answers_ping.mono fun _ _ _ hd => ⟨hd.1, hd.2.imp_right (·.imp fun _ hu => hu.answers .ping)⟩

theorem usable_execute (sql : String) :
    (execute h sql : NetRoutine ℓ κ (Except Error QueryResult)).Ensures ⟨others, fun _ _ => True⟩
      (fun r t' _ => t <:+ t' ∧ (Act.lost r = false ∨ Lapsed (Network.Usable h) t t')) t n := by
  refine usable_onHandle fun n s hs => ?_
  rw [Network.execute, hs]
  dsimp only
  split
  · rfl
  · split <;> rfl

theorem usable_executeAll (statements : List String) (total : QueryResult) :
    (executeAll h statements total : NetRoutine ℓ κ (Except Error QueryResult)).Ensures
      ⟨others, fun _ _ => True⟩
      (fun r t' _ => t <:+ t' ∧ (Act.lost r = false ∨ Lapsed (Network.Usable h) t t')) t n := by
  induction statements generalizing t n total with
  | nil => exact ⟨List.suffix_refl t, .inl rfl⟩
  | cons sql rest ih =>
    refine ensures_thenOk.2 ((usable_execute sql).mono fun r t' n' hr => ?_)
    cases r with
    | error e => exact hr
    | ok r =>
      refine (ih (combine total r)).mono fun _ t'' _ hd => ?_
      exact ⟨hr.1.trans hd.1, hd.2.imp_right (·.since hr.1)⟩

/-- An operation that is sent over a usable connection does not end with its loss. -/
theorem usable_invoke (op : Operation) :
    (invoke h op : NetRoutine ℓ κ (Except Error QueryResult)).Ensures ⟨others, fun _ _ => True⟩
      (fun r t' _ => t <:+ t' ∧ (Act.lost r = false ∨ Lapsed (Network.Usable h) t t')) t n := by
  have hunit {r : NetRoutine ℓ κ (Except Error Unit)} (hr : r.Ensures ⟨others, fun _ _ => True⟩
      (fun r t' _ => t <:+ t' ∧ ((∃ a, r = .ok a) ∨ Lapsed (Network.Usable h) t t')) t n) :
      (r.thenOk fun _ => return .ok .empty : NetRoutine ℓ κ (Except Error QueryResult)).Ensures
        ⟨others, fun _ _ => True⟩
        (fun r t' _ => t <:+ t' ∧ (Act.lost r = false ∨ Lapsed (Network.Usable h) t t')) t n := by
    refine ensures_thenOk.2 (hr.mono fun r t' n' hd => ?_)
    cases r with
    | error e => exact ⟨hd.1, hd.2.imp_left (by simp)⟩
    | ok _ => exact ⟨hd.1, .inl rfl⟩
  cases op with
  | query sql => exact usable_execute sql
  | batch statements => exact usable_executeAll statements .empty
  | selectDatabase name =>
    refine hunit (usable_onHandle fun n s hs => ?_)
    rw [Network.selectDatabase, hs]
    exact ⟨(), rfl⟩
  | setAutocommit enabled => exact usable_execute _
  | setIsolation level =>
    refine hunit (usable_onHandle fun n s hs => ?_)
    rw [Network.setIsolation, hs]
    exact ⟨(), rfl⟩
  | setMaxRows max =>
    refine ensures_bind.2 (ensures_change.2 fun now => ⟨trivial, ?_⟩)
    exact ⟨List.suffix_cons _ t, .inl rfl⟩

end Calls

/-- The connection is usable while it serves. -/
def Desk.Serves (h : Handle) (d : Desk) : Prop :=
  d.session.current = some h → d.network.Usable h

instance (h : Handle) (d : Desk) : Decidable (d.Serves h) :=
  inferInstanceAs (Decidable (_ → _))

namespace Act
open Desk
variable {ς : Outsiders} {t : List (Change Desk)} {d : Desk} {h : Handle}

/-- What a call shows of the network it shows while the session stands as it does, which nobody else
changes meanwhile. -/
theorem lapsed_onNetwork {α : Type} {r : NetRoutine Unit Errand α} {R : α → Prop}
    {C : Session → Prop} {p : Network → Prop}
    (hC : ∀ s s' : Session, s'.core = s.core → C s → C s')
    (hr : r.Ensures ⟨fun _ _ => True, fun _ _ => True⟩
      (fun x t' _ => t.map (Change.map network) <:+ t' ∧
        (R x ∨ Lapsed p (t.map (Change.map network)) t'))
      (t.map (Change.map network)) d.network)
    (hd : C d.session) :
    (onNetwork r).Ensures (anything (OutsideLock ς))
      (fun x t' _ => R x ∨ Lapsed (fun d => C d.session → p d.network) t t') t d := by
  have hpass {t' : List (Change Desk)} {d₁ d₂ : Desk} (own : Bool) (now : Nat)
      (hf : C d₁.session ∧ t <:+ t' ∧ ∀ e u, e :: u <:+ t' → t <:+ u → C e.before.session)
      (hd : d₂.session.core = d₁.session.core) :
      C d₂.session ∧ t <:+ ⟨own, now, d₁, d₂⟩ :: t' ∧
        ∀ e u, e :: u <:+ ⟨own, now, d₁, d₂⟩ :: t' → t <:+ u → C e.before.session := by
    obtain ⟨hc, hgrown, hsince⟩ := hf
    refine ⟨hC _ _ hd hc, hgrown.trans (List.suffix_cons _ t'), fun e u he hu => ?_⟩
    rcases List.suffix_cons_iff.1 he with he | he
    · cases he
      exact hc
    · exact hsince e u he hu
  refine Ensures.mono (Ensures.embed (F := fun t' d' => C d'.session ∧ t <:+ t' ∧
      ∀ e u, e :: u <:+ t' → t <:+ u → C e.before.session)
    (fun _ _ => rfl) (fun _ _ _ => trivial) ?_ ?_ ⟨hd, List.suffix_refl t, fun e u he hu => ?_⟩ hr)
    fun x t' d' hx => ?_
  · exact fun _ _ _ now hf ha => hpass false now hf ha.core
  · exact fun _ _ _ now hf _ => ⟨trivial, hpass true now hf rfl⟩
  · exact absurd (he.trans hu).length_le (by simp)
  · obtain ⟨⟨-, hx⟩, -, hgrown, hsince⟩ := hx
    refine hx.imp_right fun hl => ?_
    obtain ⟨e, u, he, hu, hp⟩ := hl.of_map hgrown
    exact ⟨e, u, he, hu, fun hs => hp (hs (hsince e u he hu))⟩

theorem serves_onNetwork {α : Type} {r : NetRoutine Unit Errand α} {R : α → Prop}
    (hr : r.Ensures ⟨fun _ _ => True, fun _ _ => True⟩
      (fun x t' _ => t.map (Change.map network) <:+ t' ∧
        (R x ∨ Lapsed (Network.Usable h) (t.map (Change.map network)) t'))
      (t.map (Change.map network)) d.network)
    (hd : d.session.current = some h) :
    (onNetwork r).Ensures (anything (OutsideLock ς))
      (fun x t' _ => R x ∨ Lapsed (Serves h) t t') t d :=
  lapsed_onNetwork (C := fun s => s.current = some h)
    (fun _ _ hc hs => (Session.current_of_core hc).trans hs) hr hd

theorem serves_ping (hd : d.session.current = some h) :
    (onNetwork (Calls.ping h)).Ensures (anything (OutsideLock ς))
      (fun x t' _ => x = .ok true ∨ Lapsed (Serves h) t t') t d :=
  serves_onNetwork Calls.usable_ping hd

theorem serves_invoke (op : Operation) (hd : d.session.current = some h) :
    (invoke h op).Ensures (anything (OutsideLock ς))
      (fun r t' _ => lost r = false ∨ Lapsed (Serves h) t t') t d := by
  refine ensures_bind.2 (ensures_change.2 fun now => ⟨trivial, ?_⟩)
  have hcall {t : List (Change Desk)} {d : Desk} (hd : d.session.current = some h) :
      (onNetwork (Calls.invoke h op)).Ensures (anything (OutsideLock ς))
        (fun r t' _ => lost r = false ∨ Lapsed (Serves h) t t') t d :=
    serves_onNetwork (Calls.usable_invoke op) hd
  refine (hcall ?_).mono fun r t' _ hr => hr.imp_right (·.since (List.suffix_cons _ t))
  exact hd

end Act
end Failover

import Failover.Proofs.Session.Sendings

/-! The statements that one operation sends over a connection: each once at most, and in order. -/
namespace Failover

/-- What a connection is sent for an operation, statement by statement. -/
def Operation.statements : Operation → List String
  | .query sql => [Text.trimmed sql]
  | .batch statements => statements.map Text.trimmed
  | .selectDatabase name => ["USE " ++ name]
  | .setAutocommit enabled => [Text.trimmed (autocommitStatement enabled)]
  | .setIsolation level => ["SET SESSION TRANSACTION ISOLATION LEVEL " ++ level.text]
  | .setMaxRows _ => []

/-- What a routine has servers note that came over a connection, by its log, the first first. -/
inductive Noted (h : Handle) : List (Change Network) → List String → Prop
  | nil : Noted h [] []
  | pass {e : Change Network} {es : List (Change Network)} {l : List String} :
      (e.own = true → e.after.cluster = e.before.cluster) → Noted h es l → Noted h (e :: es) l
  | sent {e : Change Network} {es : List (Change Network)} {l : List String} (s : String) :
      e.own = true → e.after.cluster = (e.before.record h s).cluster → Noted h es l →
      Noted h (e :: es) (l ++ [s])

/-- From one log to a later one an operation is sent over a connection, each of its statements once
at most and in order, up to where it fails. -/
def Transmitted (h : Handle) (op : Operation) (t t' : List (Change Desk)) : Prop :=
  ∃ es l, t' = es ++ t ∧ l <+: op.statements ∧ Noted h (es.map (Change.map Desk.network)) l

namespace Calls
open Routine
variable {ℓ κ : Type} {others : Network → Network → Prop} {t₀ t : List (Change Network)}
  {n : Network} {h : Handle} {l : List String}

def Has (t₀ : List (Change Network)) (h : Handle) (l : List String)
    (t : List (Change Network)) : Prop := ∃ es, t = es ++ t₀ ∧ Noted h es l

theorem Has.pass {e : Change Network} (ht : Has t₀ h l t)
    (he : e.own = true → e.after.cluster = e.before.cluster) : Has t₀ h l (e :: t) := by
  obtain ⟨es, rfl, hes⟩ := ht
  exact ⟨e :: es, rfl, .pass he hes⟩

theorem Has.sent {e : Change Network} (ht : Has t₀ h l t) (s : String) (ho : e.own = true)
    (he : e.after.cluster = (e.before.record h s).cluster) : Has t₀ h (l ++ [s]) (e :: t) := by
  obtain ⟨es, rfl, hes⟩ := ht
  exact ⟨e :: es, rfl, .sent s ho he hes⟩

theorem cluster_meet (e : Endpoint) (c : Call) (n : Network) :
    (n.meet e c).2.cluster = n.cluster := by
  unfold Network.meet
  split
  · rfl
  · split <;> rfl

theorem has_onHandle {α : Type} {c : Call} {real : Network → Except Error α × Network}
    (s : String) (hreal : ∀ n, (real n).2.cluster = (n.record h s).cluster ∨
      (∃ e, (real n).1 = .error e) ∧ (real n).2.cluster = n.cluster) (ht : Has t₀ h l t) :
    (onHandle c h none real : NetRoutine ℓ κ (Except Error α)).Ensures ⟨others, fun _ _ => True⟩
      (fun r t' _ => Has t₀ h (l ++ [s]) t' ∨ (∃ e, r = .error e) ∧ Has t₀ h l t') t n := by
  refine ensures_bind.2 (ensures_read.2 fun now => ⟨trivial, ?_⟩)
  refine ensures_onHost (F := fun t' _ => Has t₀ h l t') (fun now' => ⟨trivial, fun t' n' ho => ?_⟩)
    (fun t' n' hf now' => ⟨trivial, ?_⟩)
    (fun _ t' n' hf => ⟨fun e => .inr ⟨⟨e, rfl⟩, hf⟩, fun _ hno => by cases hno⟩)
  · refine ho.preserves (P := fun t' _ => Has t₀ h l t') (fun t s s' time hf _ => hf.pass ?_) ?_
    · intro hd
      cases hd
    · exact (ht.pass fun _ => rfl).pass fun _ => cluster_meet _ c n
  · rcases hreal n' with hs | ⟨he, hs⟩
    · exact .inl (hf.sent s rfl hs)
    · exact .inr ⟨he, hf.pass fun _ => hs⟩

theorem has_execute (sql : String) (ht : Has t₀ h l t) :
    (execute h sql : NetRoutine ℓ κ (Except Error QueryResult)).Ensures ⟨others, fun _ _ => True⟩
      (fun r t' _ => Has t₀ h (l ++ [Text.trimmed sql]) t' ∨
        (∃ e, r = .error e) ∧ Has t₀ h l t') t n := by
  refine has_onHandle _ (fun n => ?_) ht
  unfold Network.execute
  split
  · exact .inr ⟨⟨_, rfl⟩, rfl⟩
  · dsimp only
    split
    · exact .inl rfl
    · split <;> exact .inl rfl

theorem has_executeAll (statements : List String) (total : QueryResult) (ht : Has t₀ h l t) :
    (executeAll h statements total : NetRoutine ℓ κ (Except Error QueryResult)).Ensures
      ⟨others, fun _ _ => True⟩
      (fun _ t' _ => ∃ k, k <+: statements.map Text.trimmed ∧ Has t₀ h (l ++ k) t') t n := by
  induction statements generalizing l t n total with
  | nil => exact ⟨[], List.nil_prefix, by simpa using ht⟩
  | cons sql rest ih =>
    refine ensures_thenOk.2 ((has_execute sql ht).mono fun r t n hr => ?_)
    cases r with
    | error e =>
      rcases hr with hr | ⟨-, hr⟩
      · exact ⟨[Text.trimmed sql], by simp, hr⟩
      · exact ⟨[], List.nil_prefix, by simpa using hr⟩
    | ok r =>
      have hr := hr.resolve_right (by simp)
      refine (ih (combine total r) hr).mono fun _ t n hd => ?_
      obtain ⟨k, hk, ht⟩ := hd
      exact ⟨Text.trimmed sql :: k, by simpa using hk, by simpa using ht⟩

theorem has_invoke (op : Operation) (ht : Has t₀ h [] t) :
    (invoke h op : NetRoutine ℓ κ (Except Error QueryResult)).Ensures ⟨others, fun _ _ => True⟩
      (fun _ t' _ => ∃ k, k <+: op.statements ∧ Has t₀ h k t') t n := by
  have hone {α : Type} {s : String} {r : Except Error α} {t' : List (Change Network)}
      (hr : Has t₀ h ([] ++ [s]) t' ∨ (∃ e, r = .error e) ∧ Has t₀ h [] t') :
      ∃ k, k <+: [s] ∧ Has t₀ h k t' := by
    rcases hr with hr | ⟨-, hr⟩
    · exact ⟨[s], by simp, hr⟩
    · exact ⟨[], List.nil_prefix, hr⟩
  cases op with
  | query sql => exact (has_execute sql ht).mono fun _ _ _ => hone
  | batch statements => exact has_executeAll statements .empty ht
  | selectDatabase name =>
    refine ensures_thenOk.2 ((has_onHandle ("USE " ++ name) (fun n => ?_) ht).mono fun r t n hr => ?_)
    · unfold Network.selectDatabase
      split
      · exact .inr ⟨⟨_, rfl⟩, rfl⟩
      · exact .inl rfl
    · cases r <;> exact hone hr
  | setAutocommit enabled => exact (has_execute _ ht).mono fun _ _ _ => hone
  | setIsolation level =>
    refine ensures_thenOk.2 ((has_onHandle ("SET SESSION TRANSACTION ISOLATION LEVEL " ++ level.text)
      (fun n => ?_) ht).mono fun r t n hr => ?_)
    · unfold Network.setIsolation
      split
      · exact .inr ⟨⟨_, rfl⟩, rfl⟩
      · exact .inl rfl
    · cases r <;> exact hone hr
  | setMaxRows max =>
    refine ensures_bind.2 (ensures_change.2 fun now => ⟨trivial, ?_⟩)
    exact ⟨[], List.nil_prefix, ht.pass fun _ => rfl⟩

end Calls

namespace Act
open Routine

/-- One sending sends each statement of the operation once at most. -/
theorem ensures_transmitted {others : Desk → Desk → Prop} {t : List (Change Desk)} {d : Desk}
    (h : Handle) (op : Operation) :
    (invoke h op).Ensures (anything others) (fun _ t' _ => Transmitted h op t t') t d := by
  refine ensures_bind.2 (ensures_change.2 fun now => ⟨trivial, ?_⟩)
  have hstart : Calls.Has (t.map (Change.map Desk.network)) h []
      (⟨true, now, d.network, d.network⟩ :: t.map (Change.map Desk.network)) :=
    ⟨[_], rfl, .pass (fun _ => rfl) .nil⟩
  have hinvoke : (Calls.invoke h op : NetRoutine Unit Errand _).Ensures
      ⟨fun _ _ => True, fun _ _ => True⟩
      (fun _ t' _ => ∃ k, k <+: op.statements ∧
        Calls.Has (t.map (Change.map Desk.network)) h k t') _ d.network :=
    Calls.has_invoke op hstart
  refine Ensures.mono (Ensures.embed (F := fun t' _ => ∃ es, t' = es ++ t) (fun _ _ => rfl)
    ?_ ?_ ?_ ⟨[_], rfl⟩ hinvoke) ?_
  · exact fun _ _ _ => trivial
  · intro _ _ _ _ hd _
    obtain ⟨es, rfl⟩ := hd
    exact ⟨_ :: es, rfl⟩
  · intro _ _ _ _ hd _
    obtain ⟨es, rfl⟩ := hd
    exact ⟨trivial, _ :: es, rfl⟩
  · intro r _ d' hd
    obtain ⟨⟨k, hk, es', hes', hnoted⟩, es, rfl⟩ := hd
    rw [List.map_append] at hes'
    rw [← List.append_cancel_right hes'] at hnoted
    exact ⟨es, k, rfl, hk, hnoted⟩

end Act
end Failover

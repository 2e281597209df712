import Failover.Proofs.Office.Founded

/-!
A session leaks no connection: of those that its searches opened it keeps the ones in its slots, and
has closed all others. Once it is closed it keeps none.
-/
namespace Failover
open Desk Routine

/-- Nobody hands connections in, and others close none but these. -/
def Outsiders.closing (foreign : Handle → Prop) : Outsiders := ⟨False, foreign⟩

theorem Tidy.mem_slots {t : List (Change Desk)} {d : Desk} (ht : Tidy [] t d) (x : Handle) :
    Acquired t x ∧ (d.network.connection x).closed = false ↔
      d.session.primary = some x ∨ d.session.secondary = some x := by
  constructor
  · rintro ⟨hx, hopen⟩
    rcases ht.kept x hx hopen with ⟨a, ha⟩ | hloose
    · cases a with
      | primary => exact .inl ha
      | secondary => exact .inr ha
    · cases hloose
  · rintro (hx | hx)
    · exact ⟨(ht.seated .primary x hx).1, (ht.seated .primary x hx).2.1⟩
    · exact ⟨(ht.seated .secondary x hx).1, (ht.seated .secondary x hx).2.1⟩

namespace Office
variable {ask : Request → Prop} {foreign : Handle → Prop} {t₀ t : List (Change Desk)}
  {o₀ o : Office}

/-- Whoever was the first to close the session has done so, and is about to let go of its lock and
to return. -/
def closing (o : Office) : Bool :=
  match o.busy with
  | some (⟨.request .close, .release () _⟩, true) => true
  | _ => false

theorem busy_of_closing (h : o.closing = true) :
    ∃ next, o.busy = some (⟨.request .close, .release () next⟩, true) := by
  unfold closing at h
  split at h
  · rename_i next hbusy
    exact ⟨next, hbusy⟩
  · cases h

/-- Whenever the lock is free the connections that the session opened and that are still open are
those in its two slots, which share none; and when the first closing returns all are closed. -/
theorem connections_in_slots (ho : o₀.Founded (.closing foreign) t₀)
    (h : Chronicle ask (fun _ => False) (OutsideLock (.closing foreign)) t₀ o₀ t o)
    (hforeign : ∀ x, Acquired t x → ¬foreign x) :
    (o.Unlocked →
      (∀ x, Acquired t x ∧ (o.desk.network.connection x).closed = false ↔
        o.desk.session.primary = some x ∨ o.desk.session.secondary = some x) ∧
      ∀ x, o.desk.session.primary = some x → o.desk.session.secondary ≠ some x) ∧
    (o.closing = true → ∀ x, Acquired t x → (o.desk.network.connection x).closed = true) := by
  have hkept : o.Kept (tending (.closing foreign)) t := ho.kept (fun _ hc => hc.elim) h
  refine ⟨fun hfree => ?_, fun hclosing x hx => ?_⟩
  · have ht : Tidy [] t o.desk := (hkept.inOrder hfree).tidy id hforeign
    refine ⟨ht.mem_slots, fun x hp hs => ?_⟩
    cases ht.distinct .primary .secondary x hp hs
  · obtain ⟨next, hbusy⟩ := busy_of_closing hclosing
    obtain ⟨-, horder, hupon, -⟩ := hkept.busy _ true hbusy
    obtain ⟨hprimary, hsecondary⟩ := hupon rfl
    have ht : Tidy [] t o.desk := horder.tidy id hforeign
    by_contra hopen
    rcases (ht.mem_slots x).1 ⟨hx, Bool.eq_false_iff.2 hopen⟩ with hp | hs
    · rw [hprimary] at hp
      cases hp
    · rw [hsecondary] at hs
      cases hs

def paired : Desk :=
  Desk.unopened { autoReconnect := true } (.ofHosts (Cluster.replicationHosts 1))

def restarted : Office :=
  let primary := (Cluster.numbered .primary 0).endpoint
  (opened paired).amid fun c => (c.stop primary).start primary

def regained : Office := (restarted.serving (.execute (.query "SELECT 1"))).work 0 60

def emptied : Office := (regained.serving .close).work 0 7

/-- The primary's server goes down and comes back, the session finds another primary, and is closed.
-/
theorem connections_in_slots_restart : ∃ t₀ t t' o₀ o o',
    o₀.Founded (.closing fun _ => False) t₀ ∧
    Chronicle (fun _ => True) (fun _ => False) (OutsideLock (.closing fun _ => False)) t₀ o₀ t o ∧
    Chronicle (fun _ => True) (fun _ => False) (OutsideLock (.closing fun _ => False)) t₀ o₀ t' o' ∧
    (o.desk.network.connection 0).closed = true ∧
    (∀ x, Acquired t x ∧ (o.desk.network.connection x).closed = false ↔ x = 2 ∨ x = 1) ∧
    o'.desk.network.connections.size = 3 ∧
    ∀ x, Acquired t' x → (o'.desk.network.connection x).closed = true := by
  have ho : (opened paired).Founded (.closing fun _ => False) (opening paired) :=
    founded_opened (by decide +kernel)
  have h₁ : Chronicle (fun _ => True) (fun _ => False) (OutsideLock (.closing fun _ => False))
      (opening paired) (opened paired) _ restarted := Chronicle.opened.amid rfl _
  have h₂ := (h₁.serve (r := .execute (.query "SELECT 1")) rfl trivial).work 0 60
  have hbusy : regained.busy = none := Option.isNone_iff_eq_none.1 (by decide +kernel)
  have hslots : regained.desk.session.primary = some 2 ∧
      regained.desk.session.secondary = some 1 := by decide +kernel
  have h₃ := (h₂.serve (r := .close) hbusy trivial).work 0 7
  refine ⟨_, _, _, _, regained, emptied, ho, h₂, h₃, by decide +kernel, fun x => ?_,
    by decide +kernel, (connections_in_slots ho h₃ fun _ _ => id).2 (by decide +kernel)⟩
  have hfree : regained.Unlocked := unlocked_of_rest (by decide +kernel) (by decide +kernel)
  have hin := ((connections_in_slots (o := regained) ho h₂ fun _ _ => id).1 hfree).1 x
  refine hin.trans ?_
  rw [hslots.1, hslots.2]
  simp [eq_comm]

end Office
end Failover

import Failover.Proofs.Office.LawfulService

/-!
A session that has been opened. From then on whoever works for it keeps to the rules.
-/
namespace Failover
open Desk Routine

def Session.unopened (topology : Topology) (options : Options) (registry : Registry) : Session :=
  { topology, options, registry }

/-- A session has just been opened: nobody is at work for it, save in its background. -/
structure Office.Opened (o : Office) : Prop where
  connected : ∃ topology options registry n t, Act.connect.Plays SameCore []
    ⟨Session.unopened topology options registry, n⟩ (.ok ()) t o.desk
  busy : o.busy = none
  keeper : o.keeper = none
  idle : ∀ c ∈ o.idle, ∃ e, c = .fresh (.errand e)

/-- The same of a session that was opened while others did as they may. -/
structure Office.Begun (others : Desk → Desk → Prop) (o : Office) : Prop where
  connected : ∃ topology options registry n t, Act.connect.Plays others []
    ⟨Session.unopened topology options registry, n⟩ (.ok ()) t o.desk
  busy : o.busy = none
  keeper : o.keeper = none
  idle : ∀ c ∈ o.idle, ∃ e, c = .fresh (.errand e)

theorem Office.Begun.proper {others : Desk → Desk → Prop} {o : Office} {house : House}
    {calls : Network → Network → Prop} {asked : Operation → Prop} (ho : o.Begun others)
    (hh : house.Admits calls asked) (horder : house.inOrder o.desk)
    (halways : house.always o.desk) : o.Proper house := by
  refine .of_rest ho.busy ho.keeper (fun c hc => ?_) horder halways
  obtain ⟨e, rfl⟩ := ho.idle c hc
  exact hh.errand e

/-- The office after an opening that nobody disturbs. -/
def Office.opened (d : Desk) : Office := { desk := (Act.connect.alone 0 [] d).2.2 }

theorem Office.begun_opened {others : Desk → Desk → Prop} {topology : Topology} {options : Options}
    {registry : Registry} {n : Network}
    (hok : (Act.connect.alone 0 [] ⟨Session.unopened topology options registry, n⟩).1 = .ok ()) :
    (opened ⟨Session.unopened topology options registry, n⟩).Begun others := by
  have hplay := plays_alone others 0 Act.connect []
    ⟨Session.unopened topology options registry, n⟩
  rw [hok] at hplay
  exact ⟨⟨_, _, _, _, _, hplay⟩, rfl, rfl, nofun⟩

namespace Act
variable {t : List (Change Desk)} {d : Desk}

theorem ensures_sound {α : Type} {r : Act α} (hr : r.Steps fun d d' => Sound d → Sound d')
    (hs : Sound d) : r.Ensures (anything SameCore) (fun _ _ d => Sound d) t d :=
  hr.ensures (fun _ _ _ _ hs ha => hs.sameRoute ha.sameRoute)
    (fun _ _ _ _ hs hok => ⟨trivial, hok hs⟩) hs

theorem sound_of_routeUnsent {α : Type} {r : Act α} (hr : r.Steps RouteUnsent) :
    r.Steps fun d d' => Sound d → Sound d' :=
  hr.mono fun _ _ hm hs => hs.sameRoute hm.toSameRoute

/-- The first search fills slots, and what it leaves empty is taken note of. -/
theorem sound_initialConnect {x : Except Error Unit} {t' : List (Change Desk)} {d' : Desk}
    (hs : Sound d) (hf : d.session.outage.primaryFailed = false) (hc : d.session.current = none)
    (hplay : initialConnect.Plays SameCore t d x t' d') : Sound d' := by
  have hlast (needs : Needs) (e : Error) : (do
      let s ← session
      if s.primary.isNone && s.secondary.isNone then return .error e
      else
        if needs.primary then
          discard markPrimary
          update fun s => { s with active := .secondary }
        if needs.replica then discard markSecondary
        armRetry retryPeriod
        return .ok () : Act (Except Error Unit)).Steps fun d d' => Sound d → Sound d' := by
    have hreplica : (do
        if needs.replica then discard markSecondary
        armRetry retryPeriod
        return .ok () : Act (Except Error Unit)).Steps fun d d' => Sound d → Sound d' := by
      refine sound_of_routeUnsent ?_
      have harm := (routeUnsent_of_coreUnsent (steps_armRetry retryPeriod)).bind
        (f := fun _ => (pure (.ok ()) : Act (Except Error Unit))) fun _ => trivial
      split
      · exact steps_markSecondary.discard.bind fun _ => harm
      · exact harm
    refine (sound_of_routeUnsent (routeUnsent_of_coreUnsent steps_session)).bind fun s => ?_
    split
    · trivial
    · dsimp only
      split
      · refine (sound_of_routeUnsent steps_markPrimary.discard).bind fun _ => ?_
        exact (steps_change fun _ _ hs => hs.turn .secondary).bind fun _ => hreplica
      · exact hreplica
  obtain ⟨t₁, d₁, ho, hbody⟩ := plays_locked.1 hplay
  have hstart : Loose (.request .reconnect) none t₁ d₁ := by
    refine ho.preserves (P := Loose (.request .reconnect) none)
      (fun t d d' now hl ha => stable_loose _ _ t d d' false now hl ha)
      ⟨hs, fun _ _ _ => .inl rfl, fun b hb => ?_, fun hd => ?_⟩
    · rw [hc] at hb
      cases hb
    · rw [hf] at hd
      cases hd
  obtain ⟨s, t₂, d₂, hread, hbody⟩ := plays_bind.1 hbody
  obtain ⟨now, rfl, rfl, rfl⟩ := plays_read.1 hread
  obtain ⟨o, t₃, d₃, hsearch, hbody⟩ := plays_bind.1 hbody
  have hl := stable_loose _ _ t₁ d₂ d₂ true now hstart (.refl d₂)
  have hfound := (lawful_search _ hl).plays hsearch
  dsimp only at hbody
  split at hbody
  · obtain ⟨rfl, rfl, rfl⟩ := plays_pure.1 hbody
    exact hfound.sound
  · exact (ensures_sound (hlast o.needs _) hfound.sound).plays hbody

theorem opens_of_connect {others : Desk → Desk → Prop} {t' : List (Change Desk)} {d' : Desk}
    (hplay : connect.Plays others t d (.ok ()) t' d') : ∃ now t₁ d₁,
      initialConnect.Plays others (⟨true, now, d, d⟩ :: t) d (.ok ()) t₁ d₁ ∧
        touchPing.Plays others t₁ d₁ () t' d' := by
  obtain ⟨s, t₁, d₁, hread, hplay⟩ := plays_bind.1 hplay
  obtain ⟨now, rfl, rfl, rfl⟩ := plays_read.1 hread
  split at hplay
  · cases (plays_pure.1 hplay).1
  · split at hplay
    · cases (plays_pure.1 hplay).1
    · obtain ⟨_, t₂, d₂, hinit, hplay⟩ := plays_thenOk.1 hplay
      obtain ⟨_, t₃, d₃, htouch, hplay⟩ := plays_bind.1 hplay
      obtain ⟨-, rfl, rfl⟩ := plays_pure.1 hplay
      exact ⟨now, t₂, d₂, hinit, htouch⟩

theorem sound_connect {topology : Topology} {options : Options} {registry : Registry} {n : Network}
    (hplay : connect.Plays SameCore [] ⟨Session.unopened topology options registry, n⟩ (.ok ()) t d) :
    Sound d := by
  have hnew : Sound ⟨Session.unopened topology options registry, n⟩ :=
    ⟨nofun, nofun, nofun, fun _ => rfl⟩
  obtain ⟨now, t₁, d₁, hinit, htouch⟩ := opens_of_connect hplay
  have hs := sound_initialConnect hnew rfl rfl hinit
  exact (ensures_sound (sound_of_routeUnsent (routeUnsent_of_coreUnsent steps_touchPing)) hs).plays
    htouch

end Act

theorem Office.Opened.proper {o₀ o : Office} {ask : Request → Prop} (ho : o₀.Opened)
    (hr : Run ask SameCore o₀ o) : o.Proper house := by
  refine Proper.run admits_house.toLasts (fun _ _ h => h)
    (fun r _ => admits_house.request r.asks_all) admits_house.errand
    (.of_rest ho.busy ho.keeper ?_ ?_ trivial) hr
  · intro c hc
    obtain ⟨e, rfl⟩ := ho.idle c hc
    exact admits_house.errand e
  · obtain ⟨_, _, _, _, _, hplay⟩ := ho.connected
    exact Act.sound_connect hplay

end Failover

import Failover.Proofs.Session.Attempts

/-!
Who counts the query on which a primary fails. Whoever records the failure goes on before anyone
else does anything, and counts the query next if one broke on the primary that serves. Nobody else
who holds the lock counts any.
-/
namespace Failover
open Desk Routine

def Change.Strikes (e : Change Desk) : Prop :=
  e.before.session.outage.primaryFailed = false ∧ e.after.session.outage.primaryFailed = true

/-- The primary has failed on a query: it serves, and whoever comes with this duty reports that one
broke on it. -/
def Duty.Owes (duty : Duty) (t : List (Change Desk)) (e : Change Desk) : Prop :=
  e.Strikes ∧ e.before.session.active = .primary ∧ ∃ h op,
    e.before.session.current = some h ∧ duty.Reports t h (some op) ∧ op.isQuery = true

def Duty.Owing (duty : Duty) : List (Change Desk) → Prop
  | [] => False
  | e :: t => duty.Owes t e

def Unstruck : List (Change Desk) → Prop
  | [] => True
  | e :: _ => ¬e.Strikes

/-- Whoever has recorded a failure of the primary has gone on before anyone else did anything. -/
def Prompt : List (Change Desk) → Prop
  | [] => True
  | e :: t => (Unstruck t ∨ e.own = true) ∧ Prompt t

def Calm (t : List (Change Desk)) : Prop := Prompt t ∧ Unstruck t

/-- The holder of the lock counts a query that is still to be counted, and no other as long as the
primary is failed. -/
structure Reckons (duty : Duty) (t : List (Change Desk)) (e : Change Desk) : Prop where
  prompt : Prompt t
  owing : duty.Owing t → e.after.session.outage = e.before.session.outage.countQuery
  clear : ¬duty.Owing t → e.after.session.outage.primaryFailed = true →
    e.after.session.outage.queries = e.before.session.outage.queries

def reckoning : Regime where
  lockFree d d' := d'.session.core = d.session.core
  own := Reckons
  inOrder t _ := Calm t
  upon _ _ := True

/-- No failure of the primary that this duty records from here is one to be counted. -/
def Duty.Clears (duty : Duty) (d : Desk) : Prop :=
  ∀ t e, e.before.session.core = d.session.core → ¬duty.Owes t e

section Basics
variable {duty : Duty} {t : List (Change Desk)} {d d' : Desk} {e : Change Desk}

theorem Session.primaryFailed_of_core {s s' : Session} (h : s'.core = s.core) :
    s'.outage.primaryFailed = s.outage.primaryFailed :=
  Session.of_core (·.outage.primaryFailed) (fun _ => rfl) h

theorem Change.not_strikes_of_core (h : e.after.session.core = e.before.session.core) :
    ¬e.Strikes := by
  intro hs
  rw [Change.Strikes, Session.primaryFailed_of_core h] at hs
  exact Bool.false_ne_true (hs.1.symm.trans hs.2)

theorem Calm.cons (h : Calm t) (he : ¬e.Strikes) : Calm (e :: t) := ⟨⟨.inl h.2, h.1⟩, he⟩

theorem Calm.not_owing (h : Calm t) : ¬duty.Owing t := by
  cases t with
  | nil => exact id
  | cons e t => exact fun ho => h.2 ho.1

theorem Calm.reckons (h : Calm t) (he : e.after.session.outage.primaryFailed = true →
    e.after.session.outage.queries = e.before.session.outage.queries) : Reckons duty t e :=
  ⟨h.1, fun ho => (h.not_owing ho).elim, fun _ => he⟩

namespace Duty.Clears

theorem of_core (h : duty.Clears d) (hc : d'.session.core = d.session.core) : duty.Clears d' :=
  fun t e he => h t e (he.trans hc)

theorem of_failed (hf : d.session.outage.primaryFailed = true) : duty.Clears d := by
  intro t e he ho
  obtain ⟨⟨hgood, -⟩, -⟩ := ho
  rw [Session.primaryFailed_of_core he, hf] at hgood
  cases hgood

theorem of_secondary (ha : d.session.active = .secondary) : duty.Clears d := by
  intro t e he ho
  obtain ⟨-, hactive, -⟩ := ho
  rw [Session.of_core (·.active) (fun _ => rfl) he, ha] at hactive
  cases hactive

theorem errand (job : Errand) (d : Desk) : (Duty.errand job).Clears d := by
  intro t e _ ho
  obtain ⟨-, -, h, op, -, hr, -⟩ := ho
  cases hr

end Duty.Clears

namespace Desk

def stricken (now : Nat) (d : Desk) : Desk :=
  ⟨{ d.session with outage := d.session.outage.markPrimary now }, d.network⟩

theorem failed_stricken (now : Nat) (d : Desk) :
    (d.stricken now).session.outage.primaryFailed = true :=
  Outage.primaryFailed_markPrimary now d.session.outage

theorem stricken_of_failed (now : Nat) (hf : d.session.outage.primaryFailed = true) :
    d.stricken now = d := by
  rw [stricken, Outage.markPrimary, if_pos hf]

/-- The primary does not fail, and as long as it is failed no query is counted. -/
def Mute (d d' : Desk) : Prop :=
  d'.session.outage.primaryFailed = true → d.session.outage.primaryFailed = true ∧
    d'.session.outage.queries = d.session.outage.queries

theorem Mute.of_eq (h : d'.session.outage = d.session.outage) : Mute d d' := by
  rw [Mute, h]
  exact fun hf => ⟨hf, rfl⟩

theorem Move.mute {said : Deed → Prop} (h : Move said Outage.Event.Minor d d') : Mute d d' := by
  cases h with
  | outage e hm =>
    cases e with
    | primaryFailed time => exact hm.elim
    | query => exact hm.elim
    | primaryFound => exact nofun
    | secondaryFailed time =>
      change (d.session.outage.markSecondary time).primaryFailed = true → _ ∧
        (d.session.outage.markSecondary time).queries = _
      unfold Outage.markSecondary
      split <;> exact fun hf => ⟨hf, rfl⟩
    | secondaryFound => exact fun hf => ⟨hf, rfl⟩
    | attempt time => exact fun hf => ⟨hf, rfl⟩
    | readOnly requested => exact fun hf => ⟨hf, rfl⟩
  | primary x a => exact nofun
  | secondary x a => exact fun hf => ⟨hf, rfl⟩
  | _ => exact .of_eq rfl

end Desk

end Basics

namespace Act
variable {duty : Duty} {t : List (Change Desk)} {d : Desk} {op : Option Operation} {α : Type}

abbrev Calms (duty : Duty) (r : Act α) : List (Change Desk) → Desk → Prop :=
  r.Ensures (reckoning.rules duty) fun _ t _ => Calm t

section Steps

theorem calm_steps {P : Desk → Prop} {r : Act α}
    (hr : r.Steps fun d d' => Mute d d' ∧ (P d → P d'))
    (hP : ∀ d d', P d → d'.session.core = d.session.core → P d') (h : Calm t) (hd : P d) :
    r.Ensures (reckoning.rules duty) (fun _ t d => Calm t ∧ P d) t d := by
  refine hr.ensures (F := fun t d => Calm t ∧ P d) ?_ ?_ ⟨h, hd⟩
  · exact fun _ d d' _ hf hc => ⟨hf.1.cons (Change.not_strikes_of_core hc), hP d d' hf.2 hc⟩
  · intro t d d' now hf hq
    refine ⟨hf.1.reckons fun hd => (hq.1 hd).2, hf.1.cons fun hs => ?_, hq.2 hf.2⟩
    exact Bool.false_ne_true (hs.1.symm.trans (hq.1 hs.2).1)

theorem calm_mute {r : Act α} (hr : r.Steps Mute) (h : Calm t) : r.Calms duty t d :=
  (calm_steps (P := fun _ => True) (hr.mono fun _ _ hq => ⟨hq, fun _ => trivial⟩)
    (fun _ _ _ _ => trivial) h trivial).mono fun _ _ _ hd => hd.1

theorem calm_moves {r : Act α} (hr : r.Steps (Move (fun _ => True) Outage.Event.Minor))
    (h : Calm t) : r.Calms duty t d :=
  calm_mute (hr.mono fun _ _ hm => hm.mute) h

theorem calm_sameSession {P : Desk → Prop} {r : Act α} (hr : r.Steps SameSession)
    (hP : ∀ d d', P d → d'.session.core = d.session.core → P d') (h : Calm t) (hd : P d) :
    r.Ensures (reckoning.rules duty) (fun _ t d => Calm t ∧ P d) t d := by
  refine calm_steps (hr.mono fun d d' he => ?_) hP h hd
  have he : d'.session = d.session := he
  exact ⟨.of_eq (by rw [he]), fun hd => hP d d' hd (by rw [he])⟩

theorem calm_read {β : Type} {f : Nat → Desk → β} {k : β → Act α}
    {Q : α → List (Change Desk) → Desk → Prop} (h : Calm t)
    (hk : ∀ now t', t <:+ t' → Calm t' → (k (f now d)).Ensures (reckoning.rules duty) Q t' d) :
    (read f >>= k).Ensures (reckoning.rules duty) Q t d :=
  ensures_bind.2 (ensures_read.2 fun now => ⟨h.reckons fun _ => rfl,
    hk now _ (List.suffix_cons _ t) (h.cons (Change.not_strikes_of_core rfl))⟩)

theorem sameSession_onNetwork {r : NetRoutine Unit Errand α} (hr : r.Steps Network.Grows) :
    (onNetwork r).Steps SameSession :=
  Steps.embed (fun d n _ => (rfl : SameSession d ⟨d.session, n⟩)) hr

theorem sameSession_answering (slot : Option Handle) : (answering slot).Steps SameSession := by
  cases slot with
  | none => trivial
  | some h =>
    refine (sameSession_onNetwork (Calls.keeps_ping h).grows).bind fun x => ?_
    rcases x with e | (_ | _) <;> trivial

end Steps

section Failures

theorem reckons_stricken (now : Nat) (h : Calm t) :
    Reckons duty t ⟨true, now, d, d.stricken now⟩ := by
  refine h.reckons fun _ => ?_
  change (d.session.outage.markPrimary now).queries = _
  unfold Outage.markPrimary
  split <;> rfl

theorem calm_exclude {now : Nat} {d' : Desk} (failed : Handle) (h : Calm t)
    (hclear : ¬duty.Owes t ⟨true, now, d, d'⟩) :
    (exclude failed).Ensures (reckoning.rules duty) (fun _ t d => Calm t ∧ d.session = d'.session)
      (⟨true, now, d, d'⟩ :: t) d' :=
  ensures_change.2 fun _ => ⟨⟨⟨.inl h.2, h.1⟩, fun ho => (hclear ho).elim, fun _ _ => rfl⟩,
    ⟨⟨.inr rfl, .inl h.2, h.1⟩, Change.not_strikes_of_core rfl⟩, rfl⟩

theorem calm_failPrimary (failed : Handle) (h : Calm t) (hclear : duty.Clears d) :
    (failPrimary failed).Calms duty t d := by
  refine ensures_bind.2 (ensures_transact.2 fun now => ⟨reckons_stricken now h, ?_⟩)
  cases hf : d.session.outage.primaryFailed with
  | true =>
    refine h.cons (Change.not_strikes_of_core ?_)
    exact congrArg (·.session.core) (stricken_of_failed now hf)
  | false => exact (calm_exclude failed h (hclear t _ rfl)).mono fun _ _ _ hd => hd.1

theorem calm_countFailure {now : Nat} {d' : Desk} {failed : Handle} (h : Calm t)
    (hf : d'.session.outage.primaryFailed = true) (howes : duty.Owes t ⟨true, now, d, d'⟩) :
    (do
      updateOutage fun _ o => o.countQuery
      exclude failed : Act Unit).Ensures (reckoning.rules duty)
      (fun _ t d => Calm t ∧ d.session.outage.primaryFailed = true)
      (⟨true, now, d, d'⟩ :: t) d' := by
  refine ensures_bind.2 (ensures_change.2 fun now' =>
    ⟨⟨⟨.inl h.2, h.1⟩, fun _ => rfl, fun hn => (hn howes).elim⟩, ?_⟩)
  have hcalm : Calm (⟨true, now', d',
      ⟨{ d'.session with outage := d'.session.outage.countQuery }, d'.network⟩⟩ ::
        ⟨true, now, d, d'⟩ :: t) :=
    ⟨⟨.inr rfl, .inl h.2, h.1⟩, Change.not_strikes_of_core (Session.core_countQuery d'.session)⟩
  refine ensures_change.2 fun _ =>
    ⟨hcalm.reckons fun _ => rfl, hcalm.cons (Change.not_strikes_of_core rfl), ?_⟩
  change d'.session.outage.countQuery.primaryFailed = true
  rw [Outage.countQuery, if_pos hf]
  exact hf

theorem calm_recordFailure {failed : Handle} (h : Calm t) (ha : d.session.active = .primary)
    (hcurrent : d.session.current = some failed) (hr : duty.Reports t failed op) :
    (recordFailure failed op).Ensures (reckoning.rules duty)
      (fun _ t d => Calm t ∧ d.session.outage.primaryFailed = true) t d := by
  refine ensures_bind.2 (ensures_transact.2 fun now => ⟨reckons_stricken now h, ?_⟩)
  have hdown := failed_stricken now d
  cases hf : d.session.outage.primaryFailed with
  | true =>
    refine ⟨h.cons (Change.not_strikes_of_core ?_), hdown⟩
    exact congrArg (·.session.core) (stricken_of_failed now hf)
  | false =>
    change Ensures _ (if op.any (·.isQuery) then _ else _) _ _ _
    split
    · rename_i hquery
      obtain ⟨x, rfl, hx⟩ := (Option.any_eq_true _ _).1 hquery
      exact calm_countFailure h hdown ⟨⟨hf, hdown⟩, ha, failed, x, hcurrent, hr, hx⟩
    · rename_i hquery
      refine (calm_exclude failed h ?_).mono fun _ _ d' hd => ⟨hd.1, ?_⟩
      · rintro ⟨-, -, x, y, -, hr', hy⟩
        obtain rfl := hr.operation hr'
        exact hquery hy
      · rw [hd.2]
        exact hdown

end Failures

section Recovery

theorem calm_ifAnswering {slot primary : Option Handle} {k : Option Handle → Act Carryover.Replay}
    {rest : Act Carryover.Replay} (h : Calm t) (hclear : duty.Clears d)
    (hkept : ∀ x, (k (some x)).Steps (Move (fun _ => True) Outage.Event.Minor))
    (hfailed : k none = do primary.forM failPrimary; rest)
    (hrest : rest.Steps (Move (fun _ => True) Outage.Event.Minor)) :
    (answering slot >>= k).Calms duty t d := by
  refine (calm_sameSession (sameSession_answering slot) (fun _ _ => Duty.Clears.of_core) h hclear).bind
    fun x t d hd => ?_
  obtain ⟨h, hclear⟩ := hd
  cases x with
  | some x => exact calm_moves (hkept x) h
  | none =>
    rw [hfailed]
    refine Ensures.bind (P := fun _ t _ => Calm t) ?_ fun _ _ _ h => calm_moves hrest h
    cases primary with
    | none => exact h
    | some x => exact calm_failPrimary x h hclear

theorem calm_primaryFailSingle (op : Option Operation) (h : Calm t) (hclear : duty.Clears d) :
    (primaryFailSingle op).Calms duty t d :=
  calm_read h fun _ _ _ h => calm_ifAnswering h hclear
    (fun x => (moves_primaryRecovered x).bind fun _ => moves_relaunch op x) rfl
    (moves_replaceSingle op _)

theorem calm_primaryFailReplicated (op : Option Operation) (probe : Bool) (h : Calm t)
    (hclear : duty.Clears d) : (primaryFailReplicated op probe).Calms duty t d :=
  calm_read h fun _ _ _ h => calm_ifAnswering h hclear
    (fun x => (moves_primaryRecovered x).bind fun _ => moves_relaunchOnCurrent op) rfl
    (moves_replacePrimary op _)

theorem calm_failSecondary (failed : Handle) (h : Calm t) (ha : d.session.active = .secondary) :
    (failSecondary failed).Ensures (reckoning.rules duty)
      (fun _ t d => Calm t ∧ d.session.active = .secondary) t d := by
  have hmute : (failSecondary failed).Steps (Move (fun _ => True) Outage.Event.Minor) :=
    moves_failSecondary failed
  refine calm_steps ((hmute.and (steps_failSecondary failed)).mono fun d d' hd => ?_)
    (fun _ _ ha hc => (Session.of_core (·.active) (fun _ => rfl) hc).trans ha) h ha
  exact ⟨hd.1.mute, (Session.fields_of_route hd.2.route).2.2.2.2.trans⟩

theorem calm_secondaryFailReplicated (op : Option Operation) (h : Calm t)
    (ha : d.session.active = .secondary) : (secondaryFailReplicated op).Calms duty t d := by
  have hkept (d d' : Desk) (ha : d.session.active = .secondary)
      (hc : d'.session.core = d.session.core) : d'.session.active = .secondary :=
    (Session.of_core (·.active) (fun _ => rfl) hc).trans ha
  have hfail (slot : Option Handle) (t : List (Change Desk)) (d : Desk) (h : Calm t)
      (ha : d.session.active = .secondary) : (slot.forM failSecondary).Ensures
      (reckoning.rules duty) (fun _ t d => Calm t ∧ d.session.active = .secondary) t d := by
    cases slot with
    | none => exact ⟨h, ha⟩
    | some x => exact calm_failSecondary x h ha
  refine calm_read h fun _ t _ h => ?_
  refine (calm_sameSession (sameSession_answering _) hkept h ha).bind fun x t d hd => ?_
  obtain ⟨h, ha⟩ := hd
  cases x with
  | some x =>
    exact calm_moves ((moves_secondaryRecovered x).bind fun _ => moves_relaunchOnCurrent op) h
  | none =>
    refine (hfail _ t d h ha).bind fun _ t d hd => ?_
    obtain ⟨h, ha⟩ := hd
    refine calm_read h fun _ t _ h => ?_
    split
    · exact calm_moves (moves_replaceSecondary op) h
    · split
      · exact calm_moves (moves_replaceSecondary op) h
      · rename_i p _
        refine (calm_sameSession (sameSession_onNetwork (Calls.keeps_ping p).grows) hkept h ha).bind
          fun x t d hd => ?_
        obtain ⟨h, ha⟩ := hd
        split
        · exact calm_moves ((moves_turnTo _ _ p).bind fun _ => moves_carryOn op p) h
        · exact calm_moves (moves_replaceSecondary op) h
        · -- The primary fails now, but it is not the primary that the operation broke on.
          exact (calm_failPrimary p h (.of_secondary ha)).bind fun _ _ _ h =>
            calm_moves (moves_replaceSecondary op) h

theorem calm_recover {failed : Handle} (h : Calm t) (hcurrent : d.session.current = some failed)
    (hr : duty.Reports t failed op) : (recover failed op).Calms duty t d := by
  refine calm_read h fun _ t' ht h => ?_
  split
  · rename_i ha
    refine (calm_recordFailure h ha hcurrent (hr.mono ht)).bind fun _ t d hd => ?_
    obtain ⟨h, hf⟩ := hd
    split
    · exact calm_primaryFailSingle op h (.of_failed hf)
    · exact calm_primaryFailReplicated op true h (.of_failed hf)
  · rename_i ha
    refine (calm_failSecondary failed h ha).bind fun _ t d hd => ?_
    obtain ⟨h, ha⟩ := hd
    split
    · exact h
    · exact calm_secondaryFailReplicated op h ha

theorem calm_handleFailover {failed : Handle} (h : Calm t) (hr : duty.Reports t failed op) :
    (handleFailover failed op).Calms duty t d := by
  refine calm_read h fun _ t' ht h => ?_
  split
  · exact h
  · rename_i x hcurrent
    split
    · rename_i he
      rw [he] at hcurrent
      exact calm_recover h hcurrent (hr.mono ht)
    · exact calm_moves (moves_relaunch op x) h

theorem calm_pingRound {job : Errand} (h : Calm t) : pingRound.Calms (.errand job) t d := by
  have hcheck (s : Session) (t : List (Change Desk)) (d : Desk) (h : Calm t) :
      (checkPrimary s).Calms (.errand job) t d := by
    unfold checkPrimary
    split
    · rename_i p _ _
      refine (calm_sameSession (P := fun _ => True)
        (sameSession_onNetwork (Health.keeps_ofPrimaryWithin _ p).grows) (fun _ _ _ _ => trivial) h
        trivial).bind fun x t d hd => ?_
      split
      · exact hd.1
      · refine (calm_failPrimary p hd.1 (.errand job d)).bind fun _ t d h => ?_
        exact Ensures.discard (calm_primaryFailReplicated none false h (.errand job d))
    · exact h
  refine calm_read h fun _ t _ h => ?_
  split
  · exact h
  · exact (hcheck _ t d h).bind fun _ _ _ h => h

end Recovery

section Locked

theorem abides_calm {body : Act α} {Q : α → Desk → Prop}
    (h : ∀ t' d', t <:+ t' → Calm t' →
      body.Ensures (reckoning.rules duty) (fun a t d => Calm t ∧ Q a d) t' d') :
    (locked () body).Abides reckoning duty (fun a _ => Q a) false t d :=
  abides_locked fun t' d' ht hd => (h t' d' ht hd).mono fun _ _ _ hq => ⟨⟨hq.1, trivial⟩, hq.2⟩

theorem abides_calms {body : Act α} (h : ∀ t' d', t <:+ t' → Calm t' → body.Calms duty t' d') :
    (locked () body).Abides reckoning duty (fun _ _ _ => True) false t d :=
  abides_calm (Q := fun _ _ => True) fun t' d' ht hd =>
    (h t' d' ht hd).mono fun _ _ _ h => ⟨h, trivial⟩

theorem abides_reckoning_close :
    close.Abides reckoning (.request .close) (fun _ _ _ => True) false t d := by
  refine Abides.bind (Q := fun _ _ _ => True) (fun now => ⟨rfl, rfl, trivial⟩) fun first t d _ => ?_
  split
  · refine Abides.bind (Q := fun _ _ _ => True) (abides_change fun now => ⟨rfl, trivial⟩)
      fun _ t d _ => ?_
    exact abides_calms fun t' d' _ h =>
      calm_mute (outage_emptySlots.mono fun _ _ he => .of_eq he) h
  · exact ⟨rfl, trivial⟩

end Locked
end Act

/-- All that is done for a session is done by the rules of counting. -/
theorem admits_reckoning : reckoning.Admits where
  side _ _ hs := hs.core
  failover _ _ _ _ _ hr := Act.abides_calms fun _ _ ht h => Act.calm_handleFailover h (hr.mono ht)
  switch readOnly _ _ := Act.abides_calms fun _ _ _ h =>
    Act.calm_moves (Act.moves_switchReadOnly readOnly) h
  reconnect _ _ := Act.abides_calms fun _ _ _ h => Act.calm_moves Act.moves_reconnect h
  close _ _ := Act.abides_reckoning_close
  background _ _ := Act.abides_calms fun _ _ _ h => Act.calm_moves Act.moves_reconnectIfDue h
  retry _ _ _ _ := Act.abides_calm fun _ _ _ h =>
    (Act.calm_moves Act.moves_retryRound h).and Act.stopped_retryRound
  ping _ _ _ _ := Act.abides_calms fun _ _ _ h => Act.calm_pingRound h

namespace Office
variable {t : List (Change Desk)} {o : Office}

theorem waits_reckoning {c : Clerk} (hc : HandsIn c) (t : List (Change Desk)) :
    Waits reckoning t c := by
  obtain ⟨e, role, x, rfl⟩ := hc
  intro t' d' _
  refine Abides.bind (Act.abides_calms fun _ _ _ h => ?_) fun _ _ _ _ => ⟨rfl, trivial⟩
  exact Act.calm_moves (Act.moves_found role x) h

end Office

namespace Routine
variable {α : Type} {duty : Duty} {t : List (Change Desk)} {d : Desk}
  {Q : α → List (Change Desk) → Desk → Prop}

/-- Where someone came in before the holder of the lock had gone on, there is no going on by the
rules. -/
theorem not_abides_of_not_prompt {r : Act α} (h : ¬Prompt t) :
    ¬r.Abides reckoning duty Q true t d := by
  induction r generalizing d with
  | done a => exact fun ha => by cases ha.1
  | act step next => exact fun ha => h (ha 0).1.prompt
  | wait ms next ih =>
    intro ha
    rcases Nat.eq_zero_or_pos ms with hms | hms
    · exact ih (ha.1 hms)
    · exact ih (ha.2 hms t d .rest)
  | acquire l next => exact fun ha => by cases ha.1
  | release l next => exact fun ha => h ha.2.1.1
  | start j next ih => exact ih

end Routine

namespace Office
variable {t : List (Change Desk)} {o : Office}

theorem Kept.calm (hk : o.Kept reckoning t) (hfree : ∀ c, o.busy ≠ some (c, true)) : Calm t := by
  cases hkeeper : o.keeper with
  | none => exact hk.inOrder ⟨hkeeper, hfree⟩
  | some c =>
    -- Whoever waits lets others come in, and they may come in at once.
    by_contra hn
    have hidle : Amid reckoning.lockFree t o.desk (⟨false, 0, o.desk, o.desk⟩ :: t) o.desk :=
      .more 0 .rest rfl
    refine not_abides_of_not_prompt (fun hp => hn ?_) (hk.keeper c hkeeper _ _ hidle)
    exact ⟨hp.2, hp.1.resolve_right nofun⟩

end Office
end Failover

import Failover.Proofs.Config.Acceptance
import Failover.Proofs.HostList.RoundTrip

/-!
Hosts that are read from a list may stand in for those of any accepted configuration: it stays
accepted, in every mode.
-/
namespace Failover

namespace Text
variable {cs : List Char}

theorem eq_append_of_splitLast? {sep : Char} {xs ys : List Char}
    (h : splitLast? sep cs = some (xs, ys)) : cs = xs ++ sep :: ys := by
  induction cs generalizing xs with
  | nil => cases h
  | cons c cs ih =>
    unfold splitLast? at h
    split at h
    case h_1 before after hsplit =>
      cases h
      rw [ih hsplit, List.cons_append]
    case h_2 =>
      split at h
      · cases h
        simp_all
      · cases h

theorem head_trim : ∀ c ∈ (trim cs).head?, isBlank c = false := by
  intro c hc
  have hprefix : trim cs <+: trimStart cs := List.rdropWhile_prefix isBlank (trimStart cs)
  have hhead : (trimStart cs).head? = some c := by
    obtain ⟨rest, hrest⟩ := hprefix
    rw [← hrest, List.head?_append, Option.mem_def.1 hc]
    rfl
  have := List.head?_dropWhile_not isBlank cs
  rwa [← trimStart, hhead] at this

theorem trim_ne_nil (hne : cs ≠ []) (hfirst : ∀ c ∈ cs.head?, isBlank c = false) :
    trim cs ≠ [] := by
  obtain ⟨c, rest, rfl⟩ := List.exists_cons_of_ne_nil hne
  rw [trim, trimStart_of_head hfirst]
  intro hnil
  have hblank : ∀ x ∈ c :: rest, isBlank x = true := List.rdropWhile_eq_nil_iff.1 hnil
  simp_all

end Text

namespace HostList

/-- What a list makes of a host: a name that is not blank, a port to listen on, and no role. -/
structure Placed (h : Host) : Prop where
  name : Text.trim h.endpoint.name.toList ≠ []
  port : h.endpoint.port ≠ 0
  role : h.role = .unset

theorem placed_of_parseEntry {entry : List Char} {h : Host} (hne : entry ≠ [])
    (hfirst : ∀ c ∈ entry.head?, Text.isBlank c = false) (hh : parseEntry entry = .ok h) :
    Placed h := by
  have hplace {name : List Char} {port : UInt16} (hname : name <+: entry)
      (hh : (if name.isEmpty || port == 0 then Except.error (Flaw.entry (String.ofList entry))
        else .ok { endpoint := ⟨String.ofList name, port⟩ }) = .ok h) : Placed h := by
    split at hh
    · cases hh
    case isFalse hgood =>
      simp only [Bool.or_eq_true, List.isEmpty_iff, beq_iff_eq, not_or] at hgood
      cases hh
      refine ⟨?_, hgood.2, rfl⟩
      rw [String.toList_ofList]
      refine Text.trim_ne_nil hgood.1 fun c hc => hfirst c ?_
      obtain ⟨rest, rfl⟩ := hname
      rwa [List.head?_append_of_ne_nil _ hgood.1]
  unfold parseEntry at hh
  split at hh
  case h_1 => exact hplace List.prefix_rfl hh
  case h_2 name digits hsplit =>
    split at hh
    · cases hh
    · exact hplace ⟨_, (Text.eq_append_of_splitLast? hsplit).symm⟩ hh

theorem mem_mapM {es : List (List Char)} {hosts : List Host} (hm : es.mapM parseEntry = .ok hosts)
    {h : Host} (hh : h ∈ hosts) : ∃ e ∈ es, parseEntry e = .ok h := by
  induction es generalizing hosts with
  | nil =>
    cases hm
    cases hh
  | cons e es ih =>
    rw [List.mapM_cons] at hm
    cases he : parseEntry e with
    | error f => simp [he, bind, Except.bind] at hm
    | ok first =>
      cases hes : es.mapM parseEntry with
      | error f => simp [he, hes, bind, Except.bind] at hm
      | ok rest =>
        simp only [he, hes, bind, Except.bind, pure, Except.pure, Except.ok.injEq] at hm
        subst hm
        rcases List.mem_cons.1 hh with rfl | hh
        · exact ⟨e, List.mem_cons_self, he⟩
        · obtain ⟨e', he', hp⟩ := ih hes hh
          exact ⟨e', List.mem_cons_of_mem e he', hp⟩

section Parsed
variable {text : String} {hosts : List Host}

theorem mapM_of_parse (hl : parse text = .ok hosts) :
    (entries text.toList).mapM parseEntry = .ok hosts ∧ hosts ≠ [] := by
  unfold parse at hl
  split at hl
  · cases hl
  case h_2 hsome =>
    refine ⟨hl, ?_⟩
    rintro rfl
    exact hsome hl

theorem placed_of_parse (hl : parse text = .ok hosts) : ∀ h ∈ hosts, Placed h := by
  intro h hh
  obtain ⟨e, he, hp⟩ := mem_mapM (mapM_of_parse hl).1 hh
  obtain ⟨hmem, hne⟩ := List.mem_filter.1 he
  obtain ⟨piece, -, rfl⟩ := List.mem_map.1 hmem
  exact placed_of_parseEntry (by simpa using hne) Text.head_trim hp

end Parsed

end HostList

theorem Config.hostFlaw?_of_placed {h : Host} (hp : HostList.Placed h) : hostFlaw? h = none := by
  simp [hostFlaw?, hp.name, hp.port]

theorem Topology.any_mayBePrimary {hosts : List Host} (hne : hosts ≠ [])
    (hrole : ∀ h ∈ hosts, h.role = .unset) (m : Mode) :
    (Topology.ofHosts m hosts).hosts.any Host.mayBePrimary = true := by
  obtain ⟨h, rest, rfl⟩ := List.exists_cons_of_ne_nil hne
  have := hrole h List.mem_cons_self
  cases m <;> simp [ofHosts, Mode.roleOf, Host.mayBePrimary, this]

namespace Config
variable {c : Config}

/-- Whatever list of hosts is read in place of its own, an accepted configuration stays accepted, in
its mode and in any other: the list names hosts, each with a name that is more than blanks and a
port to listen on, and one of them at least may be the primary. -/
theorem override_accepted {text : String} {hosts : List Host} (hc : c.validate = .ok c)
    (hl : HostList.parse text = .ok hosts) (m : Mode) :
    ({ c with mode := m }.withHosts hosts).validate = .ok ({ c with mode := m }.withHosts hosts) ∧
      hosts ≠ [] ∧
      (∀ h ∈ hosts, Text.trim h.endpoint.name.toList ≠ [] ∧
        1 ≤ h.endpoint.port.toNat ∧ h.endpoint.port.toNat ≤ 65535) ∧
      ∃ h ∈ (Topology.ofHosts m hosts).hosts, h.mayBePrimary = true := by
  have hplaced := HostList.placed_of_parse hl
  have hne := (HostList.mapM_of_parse hl).2
  have hprimary := Topology.any_mayBePrimary hne (fun h hh => (hplaced h hh).role) m
  obtain ⟨-, -, htimeout, -, hrest⟩ := flaw?_eq_none_iff.1 (flaw?_of_validate hc)
  refine ⟨validate_of_flaw? (flaw?_eq_none_iff.2 ?_), hne, fun h hh => ?_,
    List.any_eq_true.1 hprimary⟩
  · exact ⟨hne, fun h hh => hostFlaw?_of_placed (hplaced h hh), htimeout, fun _ => hprimary, hrest⟩
  · have hport := (hplaced h hh).port
    have hlt := h.endpoint.port.toNat_lt
    have hpos : h.endpoint.port.toNat ≠ 0 := fun hzero => hport (UInt16.toNat_inj.1 hzero)
    exact ⟨(hplaced h hh).name, by omega, by omega⟩

theorem override_accepted_colons :
    ({} : Config).validate = .ok {} ∧
      HostList.parse " :db:1:65535,\u3000,名 \u2009" =
        .ok [⟨⟨":db:1", 65535⟩, .unset⟩, ⟨⟨"名", 3306⟩, .unset⟩] ∧
      (({ mode := .aurora } : Config).withHosts
        [⟨⟨":db:1", 65535⟩, .unset⟩, ⟨⟨"名", 3306⟩, .unset⟩]).validate =
          .ok { mode := .aurora,
                hosts := [⟨⟨":db:1", 65535⟩, .unset⟩, ⟨⟨"名", 3306⟩, .unset⟩] } := by
  have hc : ({} : Config).validate = .ok {} := by decide +kernel
  have hl : HostList.parse " :db:1:65535,\u3000,名 \u2009" =
      .ok [⟨⟨":db:1", 65535⟩, .unset⟩, ⟨⟨"名", 3306⟩, .unset⟩] := by decide +kernel
  exact ⟨hc, hl, (override_accepted hc hl .aurora).1⟩

end Config
end Failover

import Failover.HostList
import Mathlib.Data.List.DropRight
import Mathlib.Data.List.TakeWhile

/-!
A written list of hosts is read back. Every host may stand in its printed form, or by its name alone
where that says enough; blanks around it and places that hold nothing make no difference.
-/
namespace Failover

namespace Text

section Splitting
variable {sep : Char} {xs ys : List Char}

theorem splitAll_of_notMem (h : sep ∉ xs) : splitAll sep xs = [xs] := by
  induction xs with
  | nil => rfl
  | cons c cs ih =>
    simp only [List.mem_cons, not_or] at h
    simp [splitAll, Ne.symm h.1, ih h.2]

theorem splitAll_append (h : sep ∉ xs) (ys : List Char) :
    splitAll sep (xs ++ sep :: ys) = xs :: splitAll sep ys := by
  induction xs with
  | nil => simp [splitAll]
  | cons c cs ih =>
    simp only [List.mem_cons, not_or] at h
    simp [splitAll, Ne.symm h.1, ih h.2]

theorem splitAll_intercalate {pieces : List (List Char)} (hne : pieces ≠ [])
    (h : ∀ p ∈ pieces, sep ∉ p) : splitAll sep ([sep].intercalate pieces) = pieces := by
  induction pieces with
  | nil => exact (hne rfl).elim
  | cons p ps ih =>
    obtain ⟨hp, hps⟩ := List.forall_mem_cons.1 h
    cases ps with
    | nil => simpa using splitAll_of_notMem hp
    | cons q qs =>
      rw [List.intercalate_cons_cons, List.append_assoc, List.singleton_append,
        splitAll_append hp, ih (List.cons_ne_nil q qs) hps]

theorem splitLast?_of_notMem (h : sep ∉ xs) : splitLast? sep xs = none := by
  induction xs with
  | nil => rfl
  | cons c cs ih =>
    simp only [List.mem_cons, not_or] at h
    simp [splitLast?, Ne.symm h.1, ih h.2]

theorem splitLast?_append (xs : List Char) (h : sep ∉ ys) :
    splitLast? sep (xs ++ sep :: ys) = some (xs, ys) := by
  induction xs with
  | nil => simp [splitLast?, splitLast?_of_notMem h]
  | cons c cs ih => simp [splitLast?, ih]

end Splitting

section Trimming
variable {cs : List Char}

theorem trimStart_of_head (h : ∀ c ∈ cs.head?, isBlank c = false) : trimStart cs = cs := by
  cases cs with
  | nil => rfl
  | cons c cs => simp [trimStart, h c rfl]

theorem trimEnd_of_last (h : ∀ c ∈ cs.getLast?, isBlank c = false) : trimEnd cs = cs := by
  have hrev : trimStart cs.reverse = cs.reverse := trimStart_of_head (by simpa using h)
  rw [trimEnd, ← trimStart, hrev, List.reverse_reverse]

theorem trim_of_blank (h : ∀ c ∈ cs, isBlank c = true) : trim cs = [] := by
  rw [trim, trimStart, List.dropWhile_eq_nil_iff.2 h]
  rfl

theorem trim_padded {before after : List Char} (hbefore : ∀ c ∈ before, isBlank c = true)
    (hafter : ∀ c ∈ after, isBlank c = true) (hne : cs ≠ [])
    (hfirst : ∀ c ∈ cs.head?, isBlank c = false) (hlast : ∀ c ∈ cs.getLast?, isBlank c = false) :
    trim (before ++ cs ++ after) = cs := by
  have hstart : trimStart (before ++ cs ++ after) = cs ++ after := by
    rw [List.append_assoc, trimStart, List.dropWhile_append_of_pos hbefore]
    apply trimStart_of_head
    rwa [List.head?_append_of_ne_nil _ hne]
  have hend : trimEnd (cs ++ after) = trimEnd cs := by
    rw [trimEnd, List.reverse_append, List.dropWhile_append_of_pos (by simpa using hafter),
      ← trimEnd]
  rw [trim, hstart, hend, trimEnd_of_last hlast]

end Trimming

theorem port?_toDigits (p : UInt16) : port? (Nat.toDigits 10 p.toNat) = some p := by
  have hdigit : ∀ c ∈ Nat.toDigits 10 p.toNat, c.isDigit = true :=
    fun c hc => Nat.isDigit_of_mem_toDigits (by decide) (by decide) hc
  have hnumeral : numeral? (Nat.toDigits 10 p.toNat) = digits? (Nat.toDigits 10 p.toNat) := by
    unfold numeral?
    split
    case h_1 ds hplus =>
      have := hdigit '+' (by simp [hplus])
      exact absurd this (by decide)
    case h_2 => rfl
  simp [port?, numeralBelow?, hnumeral, digits?_toDigits, p.toNat_lt_size]

end Text

namespace HostList

def IsBlank (s : String) : Prop := ∀ c ∈ s.toList, Text.isBlank c = true

/-- A server that a list can tell of: its name is there, begins with no blank and holds no comma,
and its port is one that a server can listen on. -/
def Listable (e : Endpoint) : Prop :=
  e.name ≠ "" ∧ (∀ c ∈ e.name.toList.head?, Text.isBlank c = false) ∧ ',' ∉ e.name.toList ∧
    e.port ≠ 0

def NameTells (e : Endpoint) : Prop :=
  ':' ∉ e.name.toList ∧ (∀ c ∈ e.name.toList.getLast?, Text.isBlank c = false) ∧
    e.port = defaultPort

/-- A host as it is printed, or its name without the port. -/
def written (short : Bool) (h : Host) : String := if short then h.endpoint.name else h.text

inductive Item where
  | vacant (blanks : String)
  | host (before : String) (short : Bool) (h : Host) (after : String)

namespace Item

def text : Item → String
  | vacant blanks => blanks
  | host before short h after => before ++ written short h ++ after

def host? : Item → Option Host
  | vacant _ => none
  | host _ _ h _ => some h

def Proper : Item → Prop
  | vacant blanks => IsBlank blanks
  | host before short h after =>
    IsBlank before ∧ IsBlank after ∧ Listable h.endpoint ∧ (short = true → NameTells h.endpoint)

end Item

instance (s : String) : Decidable (IsBlank s) := List.decidableBAll _ s.toList

-- Each quantifier is decided on its text: a search through all characters is out of reach.
instance (e : Endpoint) : Decidable (Listable e) :=
  have := Option.decidableForallMem (p := fun c => Text.isBlank c = false) e.name.toList.head?
  inferInstanceAs (Decidable (_ ∧ _ ∧ _ ∧ _))

instance (e : Endpoint) : Decidable (NameTells e) :=
  have := Option.decidableForallMem (p := fun c => Text.isBlank c = false) e.name.toList.getLast?
  inferInstanceAs (Decidable (_ ∧ _ ∧ _))

instance : DecidablePred Item.Proper
  | .vacant _ => inferInstanceAs (Decidable (IsBlank _))
  | .host .. => inferInstanceAs (Decidable (_ ∧ _ ∧ _ ∧ (_ → _)))

section Entry
variable {h : Host}

theorem toList_text (h : Host) :
    h.text.toList = h.endpoint.name.toList ++ ':' :: Nat.toDigits 10 h.endpoint.port.toNat := by
  simp [Host.text, Endpoint.text, Nat.toString_eq_repr]

theorem notMem_toDigits {c : Char} (hc : c.isDigit = false) (n : Nat) : c ∉ Nat.toDigits 10 n := by
  intro hmem
  have := Nat.isDigit_of_mem_toDigits (by decide) (by decide) hmem
  simp_all

theorem not_isBlank_of_isDigit {c : Char} (hc : c.isDigit = true) : Text.isBlank c = false := by
  simp only [Char.isDigit, Bool.and_eq_true, decide_eq_true_eq, ge_iff_le, UInt32.le_iff_toNat_le]
    at hc
  simp only [Text.isBlank, Char.toNat]
  grind

theorem parseEntry_text (hl : Listable h.endpoint) :
    parseEntry h.text.toList = .ok { h with role := .unset } := by
  obtain ⟨hname, -, -, hport⟩ := hl
  rw [toList_text, parseEntry, Text.splitLast?_append _ (notMem_toDigits (by decide) _)]
  simp [Text.port?_toDigits, hport, hname]

theorem parseEntry_name (hl : Listable h.endpoint) (ht : NameTells h.endpoint) :
    parseEntry h.endpoint.name.toList = .ok { h with role := .unset } := by
  obtain ⟨hcolon, -, hport⟩ := ht
  rw [parseEntry, Text.splitLast?_of_notMem hcolon]
  simp [hl.1, ← hport, hl.2.2.2]

theorem parseEntry_written {short : Bool} (hl : Listable h.endpoint)
    (ht : short = true → NameTells h.endpoint) :
    parseEntry (written short h).toList = .ok { h with role := .unset } := by
  cases short with
  | true => exact parseEntry_name hl (ht rfl)
  | false => exact parseEntry_text hl

theorem exists_toList_written (short : Bool) (h : Host) :
    ∃ rest, (written short h).toList = h.endpoint.name.toList ++ rest := by
  cases short with
  | true => exact ⟨[], (List.append_nil _).symm⟩
  | false => exact ⟨_, toList_text h⟩

theorem comma_notMem_written {short : Bool} (hl : Listable h.endpoint) :
    ',' ∉ (written short h).toList := by
  cases short with
  | true => exact hl.2.2.1
  | false =>
    have hdigits : ',' ∉ Nat.toDigits 10 h.endpoint.port.toNat := notMem_toDigits (by decide) _
    simp [written, toList_text, hl.2.2.1, hdigits]

theorem written_ne_nil {short : Bool} (hl : Listable h.endpoint) :
    (written short h).toList ≠ [] := by
  obtain ⟨rest, hrest⟩ := exists_toList_written short h
  simp [hrest, hl.1]

theorem head_written {short : Bool} (hl : Listable h.endpoint) :
    ∀ c ∈ (written short h).toList.head?, Text.isBlank c = false := by
  obtain ⟨rest, hrest⟩ := exists_toList_written short h
  rw [hrest, List.head?_append_of_ne_nil _ (by simpa using hl.1)]
  exact hl.2.1

theorem last_written {short : Bool} (ht : short = true → NameTells h.endpoint) :
    ∀ c ∈ (written short h).toList.getLast?, Text.isBlank c = false := by
  cases short with
  | true => exact (ht rfl).2.1
  | false =>
    intro c hc
    change c ∈ h.text.toList.getLast? at hc
    rw [toList_text, List.append_cons, List.getLast?_append_of_ne_nil _ Nat.toDigits_ne_nil] at hc
    exact not_isBlank_of_isDigit
      (Nat.isDigit_of_mem_toDigits (by decide) (by decide) (List.mem_of_getLast? hc))

theorem trim_host {before after : String} {short : Bool}
    (hp : (Item.host before short h after).Proper) :
    Text.trim (Item.host before short h after).text.toList = (written short h).toList := by
  obtain ⟨hbefore, hafter, hl, ht⟩ := hp
  simp only [Item.text, String.toList_append]
  exact Text.trim_padded hbefore hafter (written_ne_nil hl) (head_written hl) (last_written ht)

end Entry

theorem comma_notMem_of_isBlank {s : String} (h : IsBlank s) : ',' ∉ s.toList :=
  fun hmem => absurd (h ',' hmem) (by decide)

theorem Item.comma_notMem {i : Item} (hp : i.Proper) : ',' ∉ i.text.toList := by
  cases i with
  | vacant blanks => exact comma_notMem_of_isBlank hp
  | host before short h after =>
    obtain ⟨hbefore, hafter, hl, -⟩ := hp
    simp [text, comma_notMem_of_isBlank hbefore, comma_notMem_of_isBlank hafter,
      comma_notMem_written hl]

variable {items : List Item}

theorem splitAll_items (hp : ∀ i ∈ items, i.Proper) (hne : items ≠ []) :
    Text.splitAll ',' (",".intercalate (items.map Item.text)).toList =
      items.map fun i => i.text.toList := by
  rw [String.toList_intercalate, List.map_map]
  refine Text.splitAll_intercalate (by simpa using hne) fun p hmem => ?_
  obtain ⟨i, hi, rfl⟩ := List.mem_map.1 hmem
  exact Item.comma_notMem (hp i hi)

/-- Vacant places fall out, and every host that is left is read as it was meant. -/
theorem mapM_parseEntry_items (hp : ∀ i ∈ items, i.Proper) :
    (((items.map fun i => i.text.toList).map Text.trim).filter (!·.isEmpty)).mapM parseEntry =
      .ok ((items.filterMap Item.host?).map fun h => { h with role := .unset }) := by
  induction items with
  | nil => rfl
  | cons i is ih =>
    obtain ⟨hi, his⟩ := List.forall_mem_cons.1 hp
    cases i with
    | vacant blanks =>
      have hnone : Text.trim (Item.vacant blanks).text.toList = [] := Text.trim_of_blank hi
      rw [List.map_cons, List.map_cons, hnone, List.filter_cons_of_neg (by simp), ih his,
        List.filterMap_cons_none rfl]
    | host before short h after =>
      have hsome : (written short h).toList.isEmpty = false :=
        List.isEmpty_eq_false_iff.2 (written_ne_nil hi.2.2.1)
      rw [List.map_cons, List.map_cons, trim_host hi, List.filter_cons_of_pos (by simp [hsome]),
        List.mapM_cons, parseEntry_written hi.2.2.1 hi.2.2.2, ih his]
      rfl

/-- A list that names a host at all is read as exactly the hosts written in it, in their order and
with no role, however they are written and whatever blanks and vacant places stand between them. -/
theorem parse_joined (hp : ∀ i ∈ items, i.Proper) (hne : items.filterMap Item.host? ≠ []) :
    parse (",".intercalate (items.map Item.text)) =
      .ok ((items.filterMap Item.host?).map fun h => { h with role := .unset }) := by
  have hitems : items ≠ [] := by
    rintro rfl
    exact hne rfl
  obtain ⟨h, hs, hhosts⟩ := List.exists_cons_of_ne_nil hne
  rw [parse, entries, splitAll_items hp hitems, mapM_parseEntry_items hp, hhosts]
  rfl

def mixedItems : List Item :=
  [.vacant "\u2003", .host "\u3000" false ⟨⟨"fe80::1", 3307⟩, .primary⟩ "\u00a0", .vacant "",
    .host "" false ⟨⟨"名 前\u2009", 65535⟩, .replica⟩ "\n", .host " " true ⟨⟨"db2", 3306⟩, .unset⟩ "\t"]

theorem parse_joined_mixedItems :
    (∀ i ∈ mixedItems, i.Proper) ∧ mixedItems.filterMap Item.host? ≠ [] ∧
      ",".intercalate (mixedItems.map Item.text) =
        "\u2003,\u3000fe80::1:3307\u00a0,,名 前\u2009:65535\n, db2\t" ∧
      parse "\u2003,\u3000fe80::1:3307\u00a0,,名 前\u2009:65535\n, db2\t" =
        .ok [⟨⟨"fe80::1", 3307⟩, .unset⟩, ⟨⟨"名 前\u2009", 65535⟩, .unset⟩,
          ⟨⟨"db2", 3306⟩, .unset⟩] := by
  have hproper : ∀ i ∈ mixedItems, i.Proper := by decide +kernel
  have hhosts : mixedItems.filterMap Item.host? ≠ [] := by decide
  have htext : ",".intercalate (mixedItems.map Item.text) =
      "\u2003,\u3000fe80::1:3307\u00a0,,名 前\u2009:65535\n, db2\t" := by decide +kernel
  exact ⟨hproper, hhosts, htext, htext ▸ parse_joined hproper hhosts⟩

end HostList
end Failover

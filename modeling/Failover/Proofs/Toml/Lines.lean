import Failover.Proofs.Toml.Strings
import Failover.Toml.Document

/-!
What is written line by line is read back: the values and the bare keys that a line can hold, and
from them whole texts.
-/
namespace Failover.Toml

theorem cons_ne_cons {p : Char → Bool} {c d : Char} (hc : p c = true) (hd : p d = false)
    (s t : List Char) : c :: s ≠ d :: t := by
  intro h
  rw [(List.cons.inj h).1, hd] at hc
  exact Bool.false_ne_true hc

theorem isGap_eq_false {p : Char → Bool} {c : Char} (hc : p c = true) (hs : p ' ' = false)
    (ht : p '\t' = false) : isGap c = false := by
  rw [Bool.eq_false_iff]
  intro hgap
  simp only [isGap, Bool.or_eq_true, beq_iff_eq] at hgap
  rcases hgap with rfl | rfl
  · exact Bool.false_ne_true (hs.symm.trans hc)
  · exact Bool.false_ne_true (ht.symm.trans hc)

section Numbers

theorem moreDigits_append {ds : List Char} (hd : ∀ c ∈ ds, c.isDigit = true) (r : List Char) :
    moreDigits Char.isDigit (ds ++ '\n' :: r) = some (ds, '\n' :: r) := by
  induction ds with
  | nil => simp [moreDigits, Char.isDigit]
  | cons c cs ih =>
    have hc := hd c List.mem_cons_self
    have hrest := ih fun x hx => hd x (List.mem_cons_of_mem _ hx)
    have hline : c ≠ '_' := by
      rintro rfl
      exact absurd hc (by decide)
    rw [List.cons_append, moreDigits]
    · simp [hc, hrest]
    · exact fun _ _ h _ => hline h
    · exact fun h _ => hline h

theorem isDigit_toDigits (n : Nat) : ∀ c ∈ Nat.toDigits 10 n, c.isDigit = true :=
  fun _ hc => Nat.isDigit_of_mem_toDigits (by decide) (by decide) hc

theorem toDigits_cons (n : Nat) :
    ∃ c t, Nat.toDigits 10 n = c :: t ∧ c.isDigit = true := by
  obtain ⟨c, t, he⟩ := List.exists_cons_of_ne_nil (Nat.toDigits_ne_nil (n := n) (b := 10))
  exact ⟨c, t, he, isDigit_toDigits n c (he ▸ List.mem_cons_self)⟩

theorem toDigits_head {n : Nat} (hn : 0 < n) : ∃ c cs, Nat.toDigits 10 n = c :: cs ∧ c ≠ '0' := by
  induction n using Nat.strongRecOn with
  | ind n ih =>
    by_cases hlt : n < 10
    · have hdigit : ∀ n < 10, 0 < n → n.digitChar ≠ '0' := by decide
      exact ⟨n.digitChar, [], Nat.toDigits_of_lt_base hlt, hdigit n hlt hn⟩
    · obtain ⟨c, cs, he, hc⟩ := ih (n / 10) (by omega) (by omega)
      rw [Nat.toDigits_of_base_le (by decide) (by omega), he]
      exact ⟨c, _, rfl, hc⟩

theorem wholeDigits_toDigits (n : Nat) (r : List Char) :
    wholeDigits (Nat.toDigits 10 n ++ '\n' :: r) = some (Nat.toDigits 10 n, '\n' :: r) := by
  rcases Nat.eq_zero_or_pos n with rfl | hn
  · rfl
  · obtain ⟨c, cs, he, hc⟩ := toDigits_head hn
    have hdigits := isDigit_toDigits n
    rw [he] at hdigits ⊢
    have hmore := moreDigits_append (fun x hx => hdigits x (List.mem_cons_of_mem _ hx)) r
    rw [List.cons_append, wholeDigits, someDigits, if_pos (hdigits c List.mem_cons_self), hmore]
    · rfl
    · simpa using hc

theorem valueInBase_digits {ds : List Char} (hd : ∀ c ∈ ds, c.isDigit = true) :
    valueInBase 10 ds = Nat.ofDigitChars 10 ds 0 := by
  have hdigit (c : Char) (hc : c.isDigit = true) : (hexDigit? c).getD 0 = c.toNat - '0'.toNat := by
    simp only [Char.isDigit, ge_iff_le, Bool.and_eq_true, decide_eq_true_eq] at hc
    have hbounds : '0' ≤ c ∧ c ≤ '9' := hc
    simp [hexDigit?, hbounds]
  have hfold (acc : Nat) : ds.foldl (fun n c => 10 * n + (hexDigit? c).getD 0) acc =
      Nat.ofDigitChars 10 ds acc := by
    induction ds generalizing acc with
    | nil => rfl
    | cons c cs ih =>
      rw [List.foldl_cons, hdigit c (hd c List.mem_cons_self)]
      exact ih (fun x hx => hd x (List.mem_cons_of_mem _ hx)) _
  exact hfold 0

theorem valueInBase_toDigits (n : Nat) : valueInBase 10 (Nat.toDigits 10 n) = n := by
  rw [valueInBase_digits (isDigit_toDigits n), Nat.ofDigitChars_ten_toDigits]

theorem inRange_natCast (n : Nat) :
    inRange (n : Int) = true ↔ (n : Int) ≤ Int64.maxValue.toInt := by
  simp [inRange]

theorem readDecimal_toDigits {n : Nat} (hn : inRange n = true) (r : List Char) :
    readDecimal (Nat.toDigits 10 n ++ '\n' :: r) = some (.integer n, '\n' :: r) := by
  have hsign : takeSign (Nat.toDigits 10 n ++ '\n' :: r) =
      (false, Nat.toDigits 10 n ++ '\n' :: r) := by
    obtain ⟨c, cs, he, hc⟩ := toDigits_cons n
    rw [he, List.cons_append]
    unfold takeSign
    split <;> simp_all [Char.isDigit]
  simp only [readDecimal, hsign, wholeDigits_toDigits, Option.bind_eq_bind, Option.bind_some]
  simp [readExponent, integerOf, valueInBase_toDigits, hn]

theorem digits_cons {ds s r : List Char} {c : Char} (hd : ∀ c ∈ ds, c.isDigit = true)
    (h : ds ++ '\n' :: r = c :: s) :
    c = '\n' ∨
      (c.isDigit = true ∧ ∃ ds', (∀ c ∈ ds', c.isDigit = true) ∧ ds' ++ '\n' :: r = s) := by
  cases ds with
  | nil => exact .inl (List.cons.inj h).1.symm
  | cons d ds =>
    obtain ⟨rfl, hs⟩ := List.cons.inj h
    exact .inr ⟨hd d List.mem_cons_self, ds, fun x hx => hd x (List.mem_cons_of_mem _ hx), hs⟩

theorem digits_next {ds s r : List Char} {c : Char} (hd : ∀ c ∈ ds, c.isDigit = true)
    (h : ds ++ '\n' :: r = c :: s) (hc : c.isDigit = true) :
    ∃ ds', (∀ c ∈ ds', c.isDigit = true) ∧ ds' ++ '\n' :: r = s := by
  rcases digits_cons hd h with rfl | ⟨-, hs⟩
  · exact absurd hc (by decide)
  · exact hs

theorem not_digits_cons {ds s r : List Char} {c : Char} (hd : ∀ c ∈ ds, c.isDigit = true)
    (hc : c.isDigit = false) (hn : c ≠ '\n') : ds ++ '\n' :: r ≠ c :: s := by
  intro h
  rcases digits_cons hd h with he | ⟨hdigit, -⟩
  · exact hn he
  · exact Bool.false_ne_true (hc.symm.trans hdigit)

/-- A number at the end of a line is no date or time. -/
theorem readQuantity_digits {ds : List Char} (hd : ∀ c ∈ ds, c.isDigit = true) (r : List Char) :
    readQuantity (ds ++ '\n' :: r) = readDecimal (ds ++ '\n' :: r) := by
  unfold readQuantity
  split
  case h_1 h | h_2 h | h_3 h | h_4 h | h_5 h | h_6 h =>
    exact (not_digits_cons hd (by decide) (by decide) h).elim
  case h_7 h | h_8 h | h_9 h =>
    obtain ⟨ds', hd', h'⟩ := digits_next hd h (by decide)
    exact (not_digits_cons hd' (by decide) (by decide) h').elim
  case h_10 h =>
    split
    · rename_i hab
      obtain ⟨ds₁, hd₁, h₁⟩ := digits_next hd h hab.1
      obtain ⟨ds₂, hd₂, h₂⟩ := digits_next hd₁ h₁ hab.2
      exact (not_digits_cons hd₂ (by decide) (by decide) h₂).elim
    · rw [h]
  case h_11 h =>
    split
    · rename_i hall
      simp only [List.all_cons, List.all_nil, Bool.and_true, Bool.and_eq_true] at hall
      obtain ⟨ds₁, hd₁, h₁⟩ := digits_next hd h hall.1
      obtain ⟨ds₂, hd₂, h₂⟩ := digits_next hd₁ h₁ hall.2.1
      obtain ⟨ds₃, hd₃, h₃⟩ := digits_next hd₂ h₂ hall.2.2.1
      obtain ⟨ds₄, hd₄, h₄⟩ := digits_next hd₃ h₃ hall.2.2.2
      exact (not_digits_cons hd₄ (by decide) (by decide) h₄).elim
    · rw [h]
  case h_12 => rfl

theorem readQuantity_toDigits {n : Nat} (hn : inRange n = true) (r : List Char) :
    readQuantity (Nat.toDigits 10 n ++ '\n' :: r) = some (.integer n, '\n' :: r) :=
  (readQuantity_digits (isDigit_toDigits n) r).trans (readDecimal_toDigits hn r)

end Numbers

section Values

/-- A value that a line can hold: a string, a number that is not negative, a truth value, or an
array of nothing. -/
def Value.Plain : Value → Prop
  | .string _ => True
  | .integer n => 0 ≤ n ∧ inRange n = true
  | .boolean _ => True
  | .array items => items = []
  | _ => False

theorem writeString_head (s : List Char) :
    ∃ c t, writeString s = c :: t ∧ (c = '"' ∨ c = '\'') := by
  unfold writeString writeAs
  cases styleOf s <;> simp

theorem Value.text_natCast (n : Nat) : (Value.integer n).text = Nat.toDigits 10 n := by
  change (Nat.repr n).toList = _
  rw [Nat.repr, String.toList_ofList]

theorem Value.text_head {v : Value} (hv : v.Plain) :
    ∃ c t, v.text = c :: t ∧ isGap c = false := by
  cases v with
  | string s =>
    obtain ⟨c, t, he, hc⟩ := writeString_head s.toList
    exact ⟨c, t, he, by rcases hc with rfl | rfl <;> rfl⟩
  | integer n =>
    obtain ⟨m, rfl⟩ := Int.eq_ofNat_of_zero_le hv.1
    obtain ⟨c, t, he, hc⟩ := toDigits_cons m
    exact ⟨c, t, (Value.text_natCast m).trans he, isGap_eq_false hc rfl rfl⟩
  | boolean b => cases b <;> exact ⟨_, _, rfl, rfl⟩
  | array items => exact ⟨_, _, rfl, rfl⟩
  | _ => exact hv.elim

theorem value?_text {v : Value} (hv : v.Plain) (r : List Char) :
    value? (v.text ++ '\n' :: r) = some (v, '\n' :: r) := by
  unfold value?
  cases v with
  | string s =>
    obtain ⟨c, t, he, hc⟩ := writeString_head s.toList
    have hread := readString_writeString s.toList r
    simp only [Value.text]
    rw [he, List.cons_append] at hread ⊢
    rcases hc with rfl | rfl <;> simp [readValue, hread]
  | integer n =>
    obtain ⟨hn, hr⟩ := hv
    obtain ⟨m, rfl⟩ := Int.eq_ofNat_of_zero_le hn
    have hread := readQuantity_toDigits hr r
    obtain ⟨c, t, he, hc⟩ := toDigits_cons m
    rw [Value.text_natCast]
    rw [he, List.cons_append] at hread ⊢
    rw [readValue, hread]
    · rfl
    all_goals exact fun _ => cons_ne_cons hc (by decide) _ _
  | boolean b => cases b <;> simp [Value.text, readValue]
  | array items =>
    obtain rfl : items = [] := hv
    simp [Value.text, readValue, readItems, skipTrivia, maxDepth, isGap]
  | _ => exact hv.elim

end Values

section Keys

def Bare (k : String) : Prop := k.toList ≠ [] ∧ ∀ c ∈ k.toList, isBare c = true

instance : DecidablePred Bare := fun k =>
  decidable_of_iff (k.toList.isEmpty = false ∧ k.toList.all isBare = true)
    (by simp [Bare])

structure PlainKey (key : List String) : Prop where
  ne_nil : key ≠ []
  length_le : key.length ≤ maxDepth
  bare : ∀ k ∈ key, Bare k

theorem skipGaps_cons {c : Char} (hc : isGap c = false) (s : List Char) :
    skipGaps (c :: s) = c :: s := by
  simp [skipGaps, hc]

theorem Bare.head {k : String} (hk : Bare k) : ∃ c t, k.toList = c :: t ∧ isBare c = true := by
  obtain ⟨c, t, he⟩ := List.exists_cons_of_ne_nil hk.1
  exact ⟨c, t, he, hk.2 c (he ▸ List.mem_cons_self)⟩

theorem joinKey_singleton (k : String) : joinKey [k] = k.toList := by
  simp [joinKey]

theorem joinKey_cons (k k' : String) (ks : List String) :
    joinKey (k :: k' :: ks) = k.toList ++ '.' :: joinKey (k' :: ks) := by
  simp [joinKey, String.toList_intercalate]

theorem readSimpleKey_append {k : String} (hk : Bare k) {c : Char} (hc : isBare c = false)
    (s : List Char) : readSimpleKey (k.toList ++ c :: s) = some (k, c :: s) := by
  have htake : (k.toList ++ c :: s).takeWhile isBare = k.toList := by
    rw [List.takeWhile_append_of_pos hk.2]
    simp [hc]
  have hdrop : (k.toList ++ c :: s).dropWhile isBare = c :: s := by
    rw [List.dropWhile_append_of_pos hk.2]
    simp [hc]
  obtain ⟨x, t, he, hx⟩ := hk.head
  rw [readSimpleKey, htake, hdrop, if_neg (by simpa using hk.1), String.ofList_toList]
  all_goals
    rw [he]
    exact fun _ => cons_ne_cons hx (by decide) _ _

theorem readKeyParts_append {key : List String} (hne : key ≠ []) (hb : ∀ k ∈ key, Bare k) {n : Nat}
    (hn : key.length ≤ n) {c : Char} (hc : isBare c = false) {s : List Char}
    (hs : ∀ t, skipGaps (c :: s) ≠ '.' :: t) :
    readKeyParts n (joinKey key ++ c :: s) = some (key, skipGaps (c :: s)) := by
  induction key generalizing n with
  | nil => exact (hne rfl).elim
  | cons k ks ih =>
    obtain ⟨n, rfl⟩ := Nat.exists_eq_succ_of_ne_zero (Nat.ne_of_gt (Nat.lt_of_lt_of_le
      (Nat.succ_pos ks.length) hn))
    have hk := hb k List.mem_cons_self
    obtain ⟨x, t, he, hx⟩ := hk.head
    have hgaps (s : List Char) : skipGaps (k.toList ++ s) = k.toList ++ s := by
      rw [he]
      exact skipGaps_cons (isGap_eq_false hx rfl rfl) _
    cases ks with
    | nil =>
      rw [joinKey_singleton, readKeyParts, hgaps, readSimpleKey_append hk hc]
      simp only [Option.bind_eq_bind, Option.bind_some]
    | cons k' ks =>
      have hrest := ih (by simp) (fun x hx => hb x (List.mem_cons_of_mem _ hx))
        (Nat.le_of_succ_le_succ hn)
      rw [joinKey_cons, List.append_assoc, List.cons_append, readKeyParts, hgaps,
        readSimpleKey_append hk (by decide)]
      simp [skipGaps_cons (c := '.') rfl, hrest]

end Keys

section Lines

/-- A line that can be written: its keys need no quotes, and a line can hold its value. -/
def Line.Plain : Line → Prop
  | .pair key v => PlainKey key ∧ v.Plain
  | .table path => PlainKey path
  | .tables path => PlainKey path

theorem PlainKey.head {key : List String} (hk : PlainKey key) :
    ∃ c t, joinKey key = c :: t ∧ isBare c = true := by
  obtain ⟨k, ks, rfl⟩ := List.exists_cons_of_ne_nil hk.ne_nil
  obtain ⟨c, t, he, hc⟩ := (hk.bare k List.mem_cons_self).head
  cases ks with
  | nil => exact ⟨c, t, (joinKey_singleton k).trans he, hc⟩
  | cons k' ks =>
    rw [joinKey_cons, he]
    exact ⟨c, _, rfl, hc⟩

theorem PlainKey.readKey {key : List String} (hk : PlainKey key) {c : Char}
    (hc : isBare c = false) {s : List Char} (hs : ∀ t, skipGaps (c :: s) ≠ '.' :: t) :
    readKey (joinKey key ++ c :: s) = some (key, skipGaps (c :: s)) :=
  readKeyParts_append hk.ne_nil hk.bare hk.length_le hc hs

theorem endOfLine?_newline (r : List Char) : endOfLine? ('\n' :: r) = some r := by
  simp [endOfLine?, skipGaps, isGap, newline?]

theorem readLine_pair {key : List String} {v : Value} (hk : PlainKey key) (hv : v.Plain)
    (r : List Char) :
    readLine (joinKey key ++ ' ' :: '=' :: ' ' :: (v.text ++ '\n' :: r)) =
      some (.pair key v, r) := by
  obtain ⟨c, t, he, hc⟩ := hk.head
  have hkey : readKey (joinKey key ++ ' ' :: '=' :: ' ' :: (v.text ++ '\n' :: r)) =
      some (key, '=' :: ' ' :: (v.text ++ '\n' :: r)) := hk.readKey rfl (by simp [skipGaps, isGap])
  have hvalue : skipGaps (' ' :: (v.text ++ '\n' :: r)) = v.text ++ '\n' :: r := by
    obtain ⟨d, t', he', hd⟩ := Value.text_head hv
    rw [he', skipGaps, List.dropWhile_cons_of_pos rfl]
    exact skipGaps_cons hd _
  rw [readLine, hkey]
  · simp [hvalue, value?_text hv, endOfLine?_newline]
  all_goals
    rw [he]
    exact fun _ => cons_ne_cons hc (by decide) _ _

theorem readLine_table {path : List String} (hk : PlainKey path) (r : List Char) :
    readLine ('[' :: (joinKey path ++ ']' :: '\n' :: r)) = some (.table path, r) := by
  have hkey : readKey (joinKey path ++ ']' :: '\n' :: r) = some (path, ']' :: '\n' :: r) :=
    hk.readKey rfl (by simp [skipGaps, isGap])
  rw [readLine, hkey]
  · simp [endOfLine?_newline]
  · obtain ⟨c, t, he, hc⟩ := hk.head
    rw [he]
    exact fun _ => cons_ne_cons hc (by decide) _ _

theorem readLine_tables {path : List String} (hk : PlainKey path) (r : List Char) :
    readLine ('[' :: '[' :: (joinKey path ++ ']' :: ']' :: '\n' :: r)) =
      some (.tables path, r) := by
  have hkey : readKey (joinKey path ++ ']' :: ']' :: '\n' :: r) =
      some (path, ']' :: ']' :: '\n' :: r) := hk.readKey rfl (by simp [skipGaps, isGap])
  rw [readLine, hkey]
  simp [endOfLine?_newline]

theorem readLine_text {line : Line} (hl : line.Plain) (r : List Char) :
    readLine (line.text true ++ r) = some (line, r) := by
  cases line with
  | pair key v => simpa [Line.text] using readLine_pair hl.1 hl.2 r
  | table path => simpa [Line.text] using readLine_table hl r
  | tables path => simpa [Line.text] using readLine_tables hl r

theorem Line.Plain.head {line : Line} (hl : line.Plain) : ∃ c t, line.text true = c :: t ∧
    isGap c = false ∧ c ≠ '#' ∧ c ≠ '\n' ∧ c ≠ '\r' ∧ c ≠ '\ufeff' := by
  have hbare {c : Char} (hc : isBare c = true) :
      isGap c = false ∧ c ≠ '#' ∧ c ≠ '\n' ∧ c ≠ '\r' ∧ c ≠ '\ufeff' := by
    refine ⟨isGap_eq_false hc rfl rfl, ?_, ?_, ?_, ?_⟩
    all_goals
      rintro rfl
      exact absurd hc (by decide)
  cases line with
  | pair key v =>
    obtain ⟨c, t, he, hc⟩ := PlainKey.head hl.1
    refine ⟨c, t ++ " = ".toList ++ v.text ++ ['\n'], ?_, hbare hc⟩
    rw [Line.text, he]
    rfl
  | table path => exact ⟨'[', _, rfl, by decide⟩
  | tables path => exact ⟨'[', _, rfl, by decide⟩

theorem scanLines_text {line : Line} (hl : line.Plain) (n : Nat) (r : List Char) :
    scanLines (n + 1) (line.text true ++ r) = (scanLines n r).map (line :: ·) := by
  obtain ⟨c, t, he, hgap, hcomment, hn, hr, -⟩ := hl.head
  have hread := readLine_text hl r
  rw [he, List.cons_append] at hread ⊢
  rw [scanLines, skipGaps_cons hgap]
  simp only [List.isEmpty_cons, List.head?_cons, newline?_cons hn hr, hread]
  simp only [Bool.false_eq_true, if_false, beq_iff_eq, Option.some.injEq, hcomment,
    Option.isSome_none, Bool.or_false, Option.bind_eq_bind, Option.bind_some]
  cases scanLines n r <;> rfl

theorem scanLines_newline (n : Nat) (r : List Char) :
    scanLines (n + 1) ('\n' :: r) = scanLines n r := by
  rw [scanLines, skipGaps_cons rfl]
  simp [newline?, endOfLine?_newline]

theorem Line.text_false (line : Line) :
    line.text false = line.text true ∨ line.text false = '\n' :: line.text true := by
  cases line with
  | pair key v => exact .inl rfl
  | table path => exact .inr rfl
  | tables path => exact .inr rfl

/-- Every line takes up at least as many characters as it takes calls to read it. -/
theorem scanLines_flatMap {lines : List Line} (hl : ∀ line ∈ lines, line.Plain) {n : Nat}
    (hn : (lines.flatMap (Line.text false)).length < n) :
    scanLines n (lines.flatMap (Line.text false)) = some lines := by
  induction lines generalizing n with
  | nil =>
    obtain ⟨n, rfl⟩ := Nat.exists_eq_succ_of_ne_zero (Nat.ne_of_gt hn)
    rfl
  | cons line lines ih =>
    have hline := hl line List.mem_cons_self
    obtain ⟨c, t, he, -⟩ := hline.head
    have hpos : 0 < (line.text true).length := by
      rw [he]
      exact Nat.succ_pos _
    have hrest {n : Nat} (hn : (lines.flatMap (Line.text false)).length < n) :=
      ih (fun x hx => hl x (List.mem_cons_of_mem _ hx)) hn
    rw [List.flatMap_cons, List.length_append] at hn
    rw [List.flatMap_cons]
    rcases line.text_false with hf | hf
    · rw [hf] at hn ⊢
      obtain ⟨n, rfl⟩ : ∃ k, n = k + 1 := ⟨n - 1, by omega⟩
      rw [scanLines_text hline, hrest (by omega)]
      rfl
    · rw [hf, List.length_cons] at hn
      obtain ⟨n, rfl⟩ : ∃ k, n = k + 1 + 1 := ⟨n - 2, by omega⟩
      rw [hf, List.cons_append, scanLines_newline, scanLines_text hline, hrest (by omega)]
      rfl

/-- A text that was written is read as the lines that were written. -/
theorem scan_write {lines : List Line} (hl : ∀ line ∈ lines, line.Plain) :
    scan (write lines).toList = some lines := by
  cases lines with
  | nil => rfl
  | cons line lines =>
    have hline := hl line List.mem_cons_self
    obtain ⟨c, t, he, -, -, -, -, hmark⟩ := hline.head
    have hpos : 0 < (line.text true).length := by
      rw [he]
      exact Nat.succ_pos _
    have hall : scanLines ((line.text true ++ lines.flatMap (Line.text false)).length + 1)
        (line.text true ++ lines.flatMap (Line.text false)) = some (line :: lines) := by
      rw [scanLines_text hline,
        scanLines_flatMap (fun x hx => hl x (List.mem_cons_of_mem _ hx))]
      · rfl
      · rw [List.length_append]
        omega
    rw [write, String.toList_ofList]
    rw [he, List.cons_append] at hall ⊢
    unfold scan
    split
    · rename_i hbegin
      exact (hmark (List.cons.inj hbegin).1).elim
    · exact hall

end Lines

end Failover.Toml

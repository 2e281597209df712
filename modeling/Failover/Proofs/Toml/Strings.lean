import Failover.Toml.Quoted

/-!
What is written between quotation marks is read back: each of the four forms of a string is read as
the string that was written in it.
-/
namespace Failover.Toml

def piece (long : Bool) : Char → List Char
  | '"' => ['\\', '"']
  | '\x08' => ['\\', 'b']
  | '\t' => ['\\', 't']
  | '\n' => if long then ['\n'] else ['\\', 'n']
  | '\x0c' => ['\\', 'f']
  | '\r' => ['\\', 'r']
  | '\\' => ['\\', '\\']
  | c => if needsEscape c then escapeNumber c.toNat else [c]

theorem escaped_quote (long : Bool) (quotes : Nat) (cs : List Char) :
    escaped long quotes ('"' :: cs) =
      if long = true ∧ quotes < 2 then '"' :: escaped long (quotes + 1) cs
      else piece long '"' ++ escaped long 0 cs := by
  cases long <;> simp [escaped, piece]

theorem escaped_cons (long : Bool) (quotes : Nat) {c : Char} (hc : c ≠ '"') (cs : List Char) :
    escaped long quotes (c :: cs) = piece long c ++ escaped long 0 cs := by
  unfold piece
  split
  case h_1 => exact (hc rfl).elim
  case h_4 => cases long <;> simp [escaped]
  case h_8 => rw [escaped] <;> simp_all
  all_goals simp [escaped]

theorem charOfHex?_number (n : Nat) (h : n < 128) :
    charOfHex? ['0', '0', hexChar (n / 16), hexChar (n % 16)] = some (Char.ofNat n) := by
  revert n
  decide +kernel

theorem lt_of_needsEscape {c : Char} (h : needsEscape c = true) : c.toNat < 128 := by
  simp [needsEscape] at h
  omega

theorem charOfHex?_escape {c : Char} (h : needsEscape c = true) :
    charOfHex? ['0', '0', hexChar (c.toNat / 16), hexChar (c.toNat % 16)] = some c := by
  rw [charOfHex?_number _ (lt_of_needsEscape h), Char.ofNat_toNat]

theorem isPlain_of_not_needsEscape {c : Char} (h : needsEscape c = false) (hn : c ≠ '\n') :
    isPlain c = true := by
  simp [needsEscape, isPlain] at h ⊢
  grind

section Basic

theorem readBasic_escape {e x : Char} (h : charOfEscape? e = some x) (r : List Char) :
    readBasic ('\\' :: e :: r) = (readBasic r).map fun y => (x :: y.1, y.2) := by
  rw [readBasic, h]
  · cases readBasic r <;> rfl
  · rintro a b c d r' rfl
    simp [charOfEscape?] at h
  · rintro a b c d e f g h' r' rfl
    simp [charOfEscape?] at h

theorem readBasic_plain {c : Char} (h : isPlain c = true) (hq : c ≠ '"') (hs : c ≠ '\\')
    (r : List Char) : readBasic (c :: r) = (readBasic r).map fun y => (c :: y.1, y.2) := by
  rw [readBasic] <;> simp_all
  cases readBasic r <;> rfl

theorem readBasic_number {a b c d x : Char} (h : charOfHex? [a, b, c, d] = some x) (r : List Char) :
    readBasic ('\\' :: 'u' :: a :: b :: c :: d :: r) =
      (readBasic r).map fun y => (x :: y.1, y.2) := by
  change (charOfHex? [a, b, c, d]).bind _ = _
  rw [h]
  cases readBasic r <;> rfl

theorem readBasic_piece (c : Char) (r : List Char) :
    readBasic (piece false c ++ r) = (readBasic r).map fun y => (c :: y.1, y.2) := by
  unfold piece
  split
  case h_8 hquote _ _ hline _ _ hslash =>
    cases hc : needsEscape c with
    | true =>
      rw [if_pos rfl]
      exact readBasic_number (charOfHex?_escape hc) r
    | false => exact readBasic_plain (isPlain_of_not_needsEscape hc hline) hquote hslash r
  all_goals exact readBasic_escape rfl r

theorem escaped_basic (quotes : Nat) (c : Char) (cs : List Char) :
    escaped false quotes (c :: cs) = piece false c ++ escaped false 0 cs := by
  by_cases hq : c = '"'
  · subst hq
    rw [escaped_quote, if_neg (by simp)]
  · exact escaped_cons false quotes hq cs

theorem readBasic_escaped (quotes : Nat) (s r : List Char) :
    readBasic (escaped false quotes s ++ '"' :: r) = some (s, r) := by
  induction s generalizing quotes with
  | nil => rfl
  | cons c cs ih =>
    rw [escaped_basic, List.append_assoc, readBasic_piece, ih]
    rfl

end Basic

theorem readLiteral_append {s : List Char} (hs : ∀ c ∈ s, isPlain c = true ∧ c ≠ '\'')
    (r : List Char) : readLiteral (s ++ '\'' :: r) = some (s, r) := by
  induction s with
  | nil => rfl
  | cons c cs ih =>
    obtain ⟨hplain, hc⟩ := hs c List.mem_cons_self
    have hrest := ih fun x hx => hs x (List.mem_cons_of_mem _ hx)
    rw [List.cons_append, readLiteral]
    · simp [hplain, hrest]
    · simpa using hc

section Long

def Twice (q : Char) (s : List Char) : Prop := ∃ r, s = q :: q :: r

theorem not_twice_cons {q c : Char} (hc : c ≠ q) (s : List Char) : ¬Twice q (c :: s) := by
  intro h
  obtain ⟨r, he⟩ := h
  exact hc (List.cons.inj he).1

theorem not_twice_cons_cons {q c d : Char} (hd : d ≠ q) (s : List Char) :
    ¬Twice q (c :: d :: s) := by
  intro h
  obtain ⟨r, he⟩ := h
  exact hd (List.cons.inj (List.cons.inj he).2).1

theorem readLong_escape {e x : Char} (h : charOfEscape? e = some x) (r : List Char) :
    readLong false ('\\' :: e :: r) = (readLong false r).map fun y => (x :: y.1, y.2) := by
  rw [readLong, h]
  · cases readLong false r <;> rfl
  · rintro a b c d r' rfl
    simp [charOfEscape?] at h
  · rintro a b c d e f g h' r' rfl
    simp [charOfEscape?] at h

theorem readLong_plain {c : Char} {r : List Char} (h : c = '\n' ∨ isPlain c = true) (hs : c ≠ '\\')
    (hq : c = '"' → ¬Twice '"' r) :
    readLong false (c :: r) = (readLong false r).map fun y => (c :: y.1, y.2) := by
  have hcr : c ≠ '\r' := by
    rintro rfl
    rcases h with h | h <;> revert h <;> decide
  rw [readLong]
  · have hc : (c == '\n' || isPlain c && c != '\\') = true := by
      rcases h with h | h <;> simp [h, hs]
    simp only [hc, Bool.false_and, Bool.false_eq_true, if_false, if_true]
    cases readLong false r <;> rfl
  · exact fun r' hc hr => hq hc ⟨_, hr⟩
  · exact fun r' hc hr => hq hc ⟨_, hr⟩
  · exact fun r' hc hr => hq hc ⟨_, hr⟩
  all_goals simp_all

theorem readLong_number {a b c d x : Char} (h : charOfHex? [a, b, c, d] = some x) (r : List Char) :
    readLong false ('\\' :: 'u' :: a :: b :: c :: d :: r) =
      (readLong false r).map fun y => (x :: y.1, y.2) := by
  change (charOfHex? [a, b, c, d]).bind _ = _
  rw [h]
  cases readLong false r <;> rfl

theorem readLong_piece {c : Char} (r : List Char) :
    readLong false (piece true c ++ r) = (readLong false r).map fun y => (c :: y.1, y.2) := by
  unfold piece
  split
  case h_4 => exact readLong_plain (.inl rfl) (by decide) (by simp)
  case h_8 hquote _ _ hline _ _ hslash =>
    cases hc : needsEscape c with
    | true =>
      rw [if_pos rfl]
      exact readLong_number (charOfHex?_escape hc) r
    | false =>
      exact readLong_plain (.inr (isPlain_of_not_needsEscape hc hline)) hslash
        fun h => (hquote h).elim
  all_goals exact readLong_escape rfl r

theorem piece_head (long : Bool) (c : Char) :
    ∃ x t, piece long c = x :: t ∧ x ≠ '"' ∧ x ≠ '\r' ∧ (x = '\n' → c = '\n') := by
  unfold piece
  split
  case h_4 => cases long <;> simp
  case h_8 hquote _ _ _ _ hreturn _ => split <;> simp_all [escapeNumber]
  all_goals simp

theorem escaped_apart {quotes : Nat} {c : Char} (h : c = '"' → 2 ≤ quotes) (cs : List Char) :
    escaped true quotes (c :: cs) = piece true c ++ escaped true 0 cs := by
  by_cases hc : c = '"'
  · have hq := h hc
    subst hc
    rw [escaped_quote, if_neg (by omega)]
  · exact escaped_cons true quotes hc cs

theorem not_twice_piece (long : Bool) (c : Char) (r : List Char) :
    ¬Twice '"' (piece long c ++ r) := by
  obtain ⟨x, t, hp, hx, -, -⟩ := piece_head long c
  rw [hp]
  exact not_twice_cons hx _

theorem not_twice_escaped {quotes : Nat} (hq : 0 < quotes) {c : Char} {cs : List Char}
    (h : c = '"' → quotes = 1 → cs ≠ []) (r : List Char) :
    ¬Twice '"' (escaped true quotes (c :: cs) ++ r) := by
  by_cases hc : c = '"' ∧ quotes < 2
  · obtain ⟨rfl, hlt⟩ := hc
    obtain ⟨d, ds, rfl⟩ := List.exists_cons_of_ne_nil (h rfl (by omega))
    obtain ⟨x, t, hp, hx, -, -⟩ := piece_head true d
    rw [escaped_quote, if_pos ⟨rfl, hlt⟩, escaped_apart (by omega), hp]
    exact not_twice_cons_cons hx _
  · rw [escaped_apart (by grind), List.append_assoc]
    exact not_twice_piece true c _

/-- The quotes at the end of a string are told from those that end it. -/
theorem readLong_escaped (quotes : Nat) (s r : List Char) :
    readLong false (escaped true quotes s ++ '"' :: '"' :: '"' :: '\n' :: r) =
      some (s, '\n' :: r) := by
  induction s generalizing quotes with
  | nil => rfl
  | cons c cs ih =>
    by_cases hc : c = '"' ∧ quotes < 2
    · obtain ⟨rfl, hlt⟩ := hc
      rw [escaped_quote, if_pos ⟨rfl, hlt⟩]
      by_cases hone : cs = []
      · subst hone
        rfl
      · by_cases htwo : cs = ['"'] ∧ quotes = 0
        · obtain ⟨rfl, rfl⟩ := htwo
          rfl
        · obtain ⟨d, ds, rfl⟩ := List.exists_cons_of_ne_nil hone
          have hquote : ¬Twice '"' (escaped true (quotes + 1) (d :: ds) ++ _) :=
            not_twice_escaped (Nat.succ_pos quotes) (by grind) ('"' :: '"' :: '"' :: '\n' :: r)
          rw [List.cons_append, readLong_plain (.inr (by decide)) (by decide) fun _ => hquote, ih]
          rfl
    · rw [escaped_apart (by grind), List.append_assoc, readLong_piece, ih]
      rfl

theorem longestRun_mono (x : Char) {n n' : Nat} (h : n ≤ n') (s : List Char) :
    longestRun x n s ≤ longestRun x n' s := by
  induction s generalizing n n' with
  | nil => exact h
  | cons c cs ih =>
    by_cases hc : c = x
    · simpa [longestRun, hc] using ih (Nat.succ_le_succ h)
    · simp only [longestRun, hc, if_false]
      omega

theorem le_longestRun (x : Char) (n : Nat) (s : List Char) : n ≤ longestRun x n s := by
  induction s generalizing n with
  | nil => exact Nat.le_refl n
  | cons c cs ih =>
    by_cases hc : c = x
    · simp only [longestRun, hc, if_true]
      exact Nat.le_of_succ_le (ih (n + 1))
    · simp only [longestRun, hc, if_false]
      omega

theorem longestRun_tail (x c : Char) (s : List Char) :
    longestRun x 0 s ≤ longestRun x 0 (c :: s) := by
  by_cases hc : c = x
  · simpa [longestRun, hc] using longestRun_mono x (Nat.zero_le 1) s
  · simp [longestRun, hc]

theorem readLongLiteral_plain {c : Char} {r : List Char} (h : c = '\n' ∨ isPlain c = true)
    (hq : c = '\'' → ¬Twice '\'' r) :
    readLongLiteral (c :: r) = (readLongLiteral r).map fun y => (c :: y.1, y.2) := by
  have hcr : c ≠ '\r' := by
    rintro rfl
    rcases h with h | h <;> revert h <;> decide
  rw [readLongLiteral]
  · have hc : (c == '\n' || isPlain c) = true := by simpa using h
    simp only [hc, if_true]
    cases readLongLiteral r <;> rfl
  · exact fun r' hc hr => hq hc ⟨_, hr⟩
  · exact fun r' hc hr => hq hc ⟨_, hr⟩
  · exact fun r' hc hr => hq hc ⟨_, hr⟩
  · exact fun r' hc _ => hcr hc

theorem readLongLiteral_append {s : List Char} (hs : ∀ c ∈ s, c = '\n' ∨ isPlain c = true)
    (hrun : longestRun '\'' 0 s ≤ 2) (r : List Char) :
    readLongLiteral (s ++ '\'' :: '\'' :: '\'' :: '\n' :: r) = some (s, '\n' :: r) := by
  induction s with
  | nil => rfl
  | cons c cs ih =>
    have hrest := ih (fun x hx => hs x (List.mem_cons_of_mem _ hx))
      (Nat.le_trans (longestRun_tail _ c cs) hrun)
    by_cases hend : c = '\'' ∧ (cs = [] ∨ cs = ['\''])
    · obtain ⟨rfl, rfl | rfl⟩ := hend <;> rfl
    · rw [List.cons_append, readLongLiteral_plain (hs c List.mem_cons_self), hrest]
      · rfl
      · rintro rfl ⟨r', he⟩
        cases cs with
        | nil => simp at hend
        | cons d ds =>
          cases ds with
          | nil => simp_all
          | cons e es =>
            simp only [List.cons_append, List.cons.injEq] at he
            obtain ⟨rfl, rfl, -⟩ := he
            have hthree : longestRun '\'' 3 es ≤ 2 := by simpa [longestRun] using hrun
            have := le_longestRun '\'' 3 es
            omega

end Long

section Styles

theorem newline?_cons {c : Char} (hn : c ≠ '\n') (hr : c ≠ '\r') (r : List Char) :
    newline? (c :: r) = none := by
  unfold newline?
  split <;> simp_all

theorem newline?_escaped {s : List Char} (hs : '\n' ∉ s) (r : List Char) :
    newline? (escaped true 0 s ++ '"' :: r) = none := by
  cases s with
  | nil => exact newline?_cons (by decide) (by decide) r
  | cons c cs =>
    by_cases hc : c = '"'
    · subst hc
      rw [escaped_quote, if_pos ⟨rfl, by decide⟩]
      exact newline?_cons (by decide) (by decide) _
    · obtain ⟨x, t, hp, -, hr, hn⟩ := piece_head true c
      rw [escaped_cons true 0 hc, hp]
      refine newline?_cons (fun hx => hs ?_) hr _
      rw [hn hx]
      exact List.mem_cons_self

theorem readString_basic (s r : List Char) :
    readString (writeAs .basic s ++ '\n' :: r) = some (s, '\n' :: r) := by
  have hread := readBasic_escaped 0 s ('\n' :: r)
  have happart : ¬Twice '"' (escaped false 0 s ++ '"' :: '\n' :: r) := by
    cases s with
    | nil => simp [escaped, Twice]
    | cons c cs =>
      rw [escaped_basic, List.append_assoc]
      exact not_twice_piece false c _
  simp only [writeAs, List.append_assoc, List.cons_append, List.nil_append]
  rw [readString, hread]
  exact fun r' he => happart ⟨r', he⟩

theorem readString_literal {s : List Char} (hs : ∀ c ∈ s, isPlain c = true ∧ c ≠ '\'')
    (r : List Char) : readString (writeAs .literal s ++ '\n' :: r) = some (s, '\n' :: r) := by
  have hread := readLiteral_append hs ('\n' :: r)
  have happart : ¬Twice '\'' (s ++ '\'' :: '\n' :: r) := by
    cases s with
    | nil => simp [Twice]
    | cons c cs => exact not_twice_cons (hs c List.mem_cons_self).2 _
  simp only [writeAs, List.append_assoc, List.cons_append, List.nil_append]
  rw [readString, hread]
  exact fun r' he => happart ⟨r', he⟩

theorem readString_longBasic (s r : List Char) :
    readString (writeAs .longBasic s ++ '\n' :: r) = some (s, '\n' :: r) := by
  have hread := readLong_escaped 0 s r
  simp only [writeAs, List.append_assoc, List.cons_append, List.nil_append]
  change readLong false ((newline? _).getD _) = _
  by_cases hline : s.contains '\n' = true
  · rw [if_pos hline]
    exact hread
  · rw [if_neg hline, List.nil_append, newline?_escaped (by simpa using hline)]
    exact hread

theorem readString_longLiteral {s : List Char} (hs : ∀ c ∈ s, c = '\n' ∨ isPlain c = true)
    (hrun : longestRun '\'' 0 s ≤ 2) (r : List Char) :
    readString (writeAs .longLiteral s ++ '\n' :: r) = some (s, '\n' :: r) := by
  have hread := readLongLiteral_append hs hrun r
  simp only [writeAs, List.append_assoc, List.cons_append, List.nil_append]
  change readLongLiteral ((newline? _).getD _) = _
  by_cases hline : s.contains '\n' = true
  · rw [if_pos hline]
    exact hread
  · have hnone : newline? (s ++ '\'' :: '\'' :: '\'' :: '\n' :: r) = none := by
      cases s with
      | nil => exact newline?_cons (by decide) (by decide) _
      | cons c cs =>
        have hn : c ≠ '\n' := fun h => hline (by simp [h])
        refine newline?_cons hn (fun h => ?_) _
        have hc := (hs c List.mem_cons_self).resolve_left hn
        rw [h] at hc
        exact absurd hc (by decide)
    rw [if_neg hline, List.nil_append, hnone]
    exact hread

/-- Whatever the characters of a string, it is read as it was written. -/
theorem readString_writeString (s r : List Char) :
    readString (writeString s ++ '\n' :: r) = some (s, '\n' :: r) := by
  have hplain (hs : s.any needsEscape = false) (c : Char) (hc : c ∈ s) :
      c = '\n' ∨ isPlain c = true := by
    have hn : needsEscape c = false := by simpa using List.any_eq_false.1 hs c hc
    by_cases hl : c = '\n'
    · exact .inl hl
    · exact .inr (isPlain_of_not_needsEscape hn hl)
  unfold writeString styleOf
  simp only
  split
  · exact readString_basic s r
  · split
    · rename_i h
      simp only [Bool.and_eq_true, Bool.not_eq_true'] at h
      obtain ⟨⟨hescapes, hquote⟩, hlines⟩ := h
      refine readString_literal (fun c hc => ⟨?_, ?_⟩) r
      · refine (hplain hescapes c hc).resolve_left fun hl => ?_
        subst hl
        simp [hc] at hlines
      · rintro rfl
        simp [hc] at hquote
    · split
      · exact readString_longBasic s r
      · split
        · rename_i h
          simp only [Bool.and_eq_true, Bool.not_eq_true', decide_eq_true_eq] at h
          exact readString_longLiteral (hplain h.1) h.2 r
        · split
          · exact readString_longBasic s r
          · exact readString_basic s r

end Styles

end Failover.Toml

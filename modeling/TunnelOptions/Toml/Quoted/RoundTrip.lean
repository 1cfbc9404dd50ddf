import TunnelOptions.Toml.Quoted.Form

/-!
# Reading back what was written

Every form of a string is read as the string that was written in it, whatever follows it that does
not go on with a quote. The proof has a part for each form, and a last one that puts them together
along the choice of the form.

On one line there is little to do: an escape is read as the character it was made of, and the
closing quote is the first quote there is. In a block the difficulty is with quotes. A quote may
belong to the string or end it, and which of the two it is depends on the two characters behind it;
so a text cannot be read character by character there. What can be done is to read a run of quotes
together with what follows it: at most two of them that no third follows stand for themselves, and
three end the block, together with at most two that belong to it.

Both readers of blocks treat their quote in that way. `EndsAt` says what a reader does at a quote,
and from that alone the two facts are derived, for any quote and any reader; the two inductions over
a block then carry the run of quotes that has been passed.

* `readBasic_escape`: a character is read as what was escaped.
* `EndsAt.read_replicate`, `EndsAt.read_close`: a run of quotes inside a block and at its end.
* `readBasic_flatMap_escape`, `readBasic_escapeBlock`: the two forms with escapes.
* `readLiteral_append`, `readLiteral_block`: the two forms without.
* `read_write`: a string in the form that was chosen for it.
-/

set_option autoImplicit false

namespace TunnelOptions.Toml.Quoted

/-! ## One character with escapes -/

/-- A digit that was written is read. -/
theorem digitValue?_hexDigit : ∀ d, d < 16 → Text.digitValue? (hexDigit d) = some d := by decide

/-- What is not visible is a control character of ASCII. -/
theorem toNat_of_not_isVisible {c : Char} (h : isVisible c = false) :
    c.toNat < 0x20 ∨ c.toNat = 0x7f := by
  simp only [isVisible, Bool.or_eq_false_iff, Bool.and_eq_false_iff, decide_eq_false_iff_not] at h
  omega

theorem scalar?_toNat (c : Char) : scalar? c.toNat = some c := by
  have : c.toNat.isValidChar := c.valid
  simp [scalar?, this]

theorem readBasic_escapeByNumber (block : Bool) {c : Char} (h : isVisible c = false)
    (cs : List Char) :
    readBasic block .plain (escapeByNumber c ++ cs) = (readBasic block .plain cs).map (push c) := by
  have hc : c.toNat < 128 := by rcases toNat_of_not_isVisible h with h | h <;> omega
  have h1 : Text.digitValue? (hexDigit (c.toNat / 16)) = some (c.toNat / 16) :=
    digitValue?_hexDigit _ (by omega)
  have h2 : Text.digitValue? (hexDigit (c.toNat % 16)) = some (c.toNat % 16) :=
    digitValue?_hexDigit _ (by omega)
  have h3 : c.toNat / 16 * 16 + c.toNat % 16 = c.toNat := by omega
  have h0 : Text.digitValue? '0' = some 0 := by decide
  have hu : escaped? 'u' = none := by decide
  simp [escapeByNumber, readBasic, h0, h1, h2, h3, scalar?_toNat, hu]

/-- A visible character that needs no escape stands for itself. -/
theorem readBasic_of_isVisible (block : Bool) {c : Char} (hv : isVisible c = true)
    (hq : c ≠ '"') (he : c ≠ '\\') (cs : List Char) :
    readBasic block .plain (c :: cs) = (readBasic block .plain cs).map (push c) := by
  simp [readBasic, hv, hq, he]

/-- **A character is read as what was escaped.** -/
theorem readBasic_escape (block : Bool) (c : Char) (cs : List Char) :
    readBasic block .plain (escape c ++ cs) = (readBasic block .plain cs).map (push c) := by
  unfold escape
  split
  case h_8 _ _ _ _ _ hq he =>
    split
    · rename_i hv
      exact readBasic_of_isVisible block hv hq he cs
    · rename_i hv
      exact readBasic_escapeByNumber block (by simpa using hv) cs
  all_goals simp [readBasic, escaped?]

/-- No escape starts with a quote. -/
theorem head?_escape_append (c : Char) (cs : List Char) : (escape c ++ cs).head? ≠ some '"' := by
  unfold escape
  split
  case h_8 _ _ _ _ _ hq he =>
    split
    · simpa using hq
    · simp [escapeByNumber]
  all_goals simp

/-- A string on one line, with escapes. -/
theorem readBasic_flatMap_escape (s rest : List Char) :
    readBasic false .plain (s.flatMap escape ++ '"' :: rest) = some (s, rest) := by
  induction s with
  | nil => simp [readBasic, close?]
  | cons c s ih => simp [List.flatMap_cons, List.append_assoc, readBasic_escape, ih, push]

/-! ## The end of a block

All of this holds for either quote, so it is said of a quote and a reader that stops at it. -/

/-- Three quotes end a block, and at most two more belong to it. -/
theorem close?_replicate {quote : Char} {k : Nat} (hk : k ≤ 2) {rest : List Char}
    (h : rest.head? ≠ some quote) :
    close? true quote (quote :: quote :: (List.replicate k quote ++ rest))
      = some (List.replicate k quote, rest) := by
  match k, rest with
  | 0, [] | 1, [] | 2, rest => simp [close?]
  | 0, d :: rest | 1, d :: rest =>
    simp only [List.head?_cons, ne_eq, Option.some.injEq] at h
    simp [close?, h]

/-- Nothing ends where there are no two more quotes. -/
theorem close?_eq_none {quote : Char} {cs : List Char} (h : ¬ [quote, quote] <+: cs) :
    close? true quote cs = none := by
  match cs with
  | [] | [_] => rfl
  | a :: b :: cs =>
    have : ¬ (a = quote ∧ b = quote) := by
      rintro ⟨rfl, rfl⟩
      exact h ⟨cs, rfl⟩
    simp [close?, this]

/-- Where no quote comes, no two quotes come. -/
theorem not_pair_isPrefix {quote : Char} {cs : List Char} (h : cs.head? ≠ some quote) :
    ¬ [quote, quote] <+: cs := by
  rintro ⟨t, rfl⟩
  simp at h

/-- Where no quote comes, no two come behind one. -/
theorem not_pair_isPrefix_cons {quote : Char} {cs : List Char} (h : cs.head? ≠ some quote) :
    ¬ [quote, quote] <+: quote :: cs := by
  rintro ⟨t, ht⟩
  simp only [List.cons_append, List.nil_append, List.cons.injEq, true_and] at ht
  simp [← ht] at h

/-- Some of one character in front of what was read. -/
def pushMany (quote : Char) (k : Nat) (read : List Char × List Char) : List Char × List Char :=
  (List.replicate k quote ++ read.1, read.2)

/-- What a reader of blocks does at its quote: the block ends there, or the quote stands for itself.
It is all that the facts about runs of quotes need to know of a reader. -/
def EndsAt (quote : Char) (read : List Char → Option (List Char × List Char)) : Prop :=
  ∀ cs, read (quote :: cs) = (close? true quote cs).or ((read cs).map (push quote))

theorem endsAt_readBasic : EndsAt '"' (readBasic true .plain) := by
  intro cs
  cases h : close? true '"' cs <;> simp [readBasic, h]

theorem endsAt_readLiteral : EndsAt '\'' (readLiteral true) := by
  intro cs
  cases h : close? true '\'' cs <;> simp [readLiteral, h]

namespace EndsAt

variable {quote : Char} {read : List Char → Option (List Char × List Char)}

/-- A quote that no two more follow stands for itself. -/
theorem read_quote (hread : EndsAt quote read) {cs : List Char} (h : ¬ [quote, quote] <+: cs) :
    read (quote :: cs) = (read cs).map (push quote) := by
  rw [hread cs, close?_eq_none h, Option.none_or]

/-- At most two quotes that no third follows stand for themselves. -/
theorem read_replicate (hread : EndsAt quote read) {k : Nat} (hk : k ≤ 2) {cs : List Char}
    (h : cs.head? ≠ some quote) :
    read (List.replicate k quote ++ cs) = (read cs).map (pushMany quote k) := by
  have hone := hread.read_quote (not_pair_isPrefix h)
  have htwo := hread.read_quote (not_pair_isPrefix_cons h)
  match k with
  | 0 => cases hr : read cs <;> simp [pushMany, hr]
  | 1 => rw [List.replicate_one, List.singleton_append, hone]; rfl
  | 2 =>
    change read (quote :: quote :: cs) = _
    rw [htwo, hone, Option.map_map]
    rfl

/-- Three quotes end the block, and at most two in front of them belong to it. -/
theorem read_close (hread : EndsAt quote read) {k : Nat} (hk : k ≤ 2) {rest : List Char}
    (h : rest.head? ≠ some quote) :
    read (List.replicate k quote ++ quote :: quote :: quote :: rest)
      = some (List.replicate k quote, rest) := by
  -- in a run of quotes those that close come first, and the ones that belong to the block last
  have hrun : List.replicate k quote ++ quote :: quote :: quote :: rest
      = quote :: quote :: quote :: (List.replicate k quote ++ rest) := by
    match k with
    | 0 | 1 | 2 => rfl
  rw [hrun, hread, close?_replicate hk h, Option.some_or]

end EndsAt

/-! ## A block with escapes -/

/-- A run of quotes matters only to the quote behind it. -/
theorem escapeBlock_of_ne {c : Char} (h : c ≠ '"') (run : Nat) (s : List Char) :
    escapeBlock run (c :: s) = escapeBlock 0 (c :: s) := by
  simp [escapeBlock, h]

theorem head?_escapeBlock_append {c : Char} (h : c ≠ '"') (run : Nat) (s cs : List Char) :
    (escapeBlock run (c :: s) ++ cs).head? ≠ some '"' := by
  rw [escapeBlock, if_neg h]
  split
  · simp
  · rw [List.append_assoc]
    exact head?_escape_append _ _

/-- A character of a block that is no quote. -/
theorem readBasic_escapeBlock_cons {c : Char} (h : c ≠ '"') (s cs : List Char) :
    readBasic true .plain (escapeBlock 0 (c :: s) ++ cs) =
      (readBasic true .plain (escapeBlock 0 s ++ cs)).map (push c) := by
  rw [escapeBlock, if_neg h]
  split
  · rename_i hc
    subst hc
    simp [readBasic, isFeed]
  · rw [List.append_assoc, readBasic_escape]

/-- **A block is read as what was written in it.** The run of quotes that has been written is read
together with what follows it. -/
theorem readBasic_escapeBlock {run : Nat} (hr : run ≤ 2) (s : List Char) {rest : List Char}
    (h : rest.head? ≠ some '"') :
    readBasic true .plain
        (List.replicate run '"' ++ (escapeBlock run s ++ '"' :: '"' :: '"' :: rest))
      = some (List.replicate run '"' ++ s, rest) := by
  induction s generalizing run with
  | nil =>
    rw [escapeBlock, List.nil_append, List.append_nil]
    exact endsAt_readBasic.read_close hr h
  | cons c s ih =>
    have ih0 := ih (Nat.zero_le 2)
    simp only [List.replicate_zero, List.nil_append] at ih0
    by_cases hc : c = '"'
    · subst hc
      by_cases hlt : run < 2
      · have := ih (show run + 1 ≤ 2 by omega)
        simpa [escapeBlock, hlt, List.replicate_succ', List.append_assoc] using this
      · have he := readBasic_escape true '"' (escapeBlock 0 s ++ '"' :: '"' :: '"' :: rest)
        simp only [escape, List.cons_append, List.nil_append, ih0] at he
        simp only [escapeBlock, hlt, if_true, if_false, List.cons_append]
        rw [endsAt_readBasic.read_replicate hr (by simp), he]
        rfl
    · rw [endsAt_readBasic.read_replicate hr (head?_escapeBlock_append hc run s _),
        escapeBlock_of_ne hc, readBasic_escapeBlock_cons hc, ih0]
      rfl

/-! ## No escapes -/

/-- A string on one line, without escapes. -/
theorem readLiteral_append {s : List Char} (h : Form.literal.fits s = true) (rest : List Char) :
    readLiteral false (s ++ '\'' :: rest) = some (s, rest) := by
  induction s with
  | nil => simp [readLiteral, close?]
  | cons c s ih =>
    simp only [Form.fits, List.all_cons, Bool.and_eq_true, decide_eq_true_eq] at h
    have := ih (by simpa [Form.fits] using h.2)
    simp [readLiteral, h.1.1, h.1.2, this, push]

/-- The run so far is no longer than the longest one. -/
theorem le_longestRun (quote : Char) (run : Nat) (s : List Char) :
    run ≤ longestRun quote run s := by
  induction s generalizing run with
  | nil => exact Nat.le_refl run
  | cons c s ih =>
    rw [longestRun]
    split
    · exact Nat.le_trans (Nat.le_succ run) (ih (run + 1))
    · exact Nat.le_max_left _ _

/-- **A block without escapes is read as it stands.** -/
theorem readLiteral_block {run : Nat} {s : List Char}
    (hv : ∀ c ∈ s, isVisible c = true ∨ c = '\n') (hq : longestRun '\'' run s ≤ 2)
    {rest : List Char} (h : rest.head? ≠ some '\'') :
    readLiteral true (List.replicate run '\'' ++ (s ++ '\'' :: '\'' :: '\'' :: rest))
      = some (List.replicate run '\'' ++ s, rest) := by
  have hr : run ≤ 2 := Nat.le_trans (le_longestRun _ _ _) hq
  induction s generalizing run with
  | nil =>
    rw [List.nil_append, List.append_nil]
    exact endsAt_readLiteral.read_close hr h
  | cons c s ih =>
    have hvs : ∀ d ∈ s, isVisible d = true ∨ d = '\n' := fun d hd =>
      hv d (List.mem_cons_of_mem c hd)
    rw [longestRun] at hq
    by_cases hc : c = '\''
    · subst hc
      rw [if_pos rfl] at hq
      have := ih hvs hq (Nat.le_trans (le_longestRun _ _ _) hq)
      simpa [List.replicate_succ', List.append_assoc] using this
    · rw [if_neg hc] at hq
      have h0 : longestRun '\'' 0 s ≤ 2 := by omega
      -- The run of quotes in front has ended, so the rest is read with none in front.
      have ih0 := ih hvs h0 (Nat.zero_le 2)
      simp only [List.replicate_zero, List.nil_append] at ih0
      have hcv : isVisible c = true ∨ isFeed true c = true := by
        rcases hv c (List.mem_cons_self ..) with hcv | hcv
        · exact .inl hcv
        · exact .inr (by simp [isFeed, hcv])
      have hs : readLiteral true (c :: (s ++ '\'' :: '\'' :: '\'' :: rest))
          = some (c :: s, rest) := by
        simp [readLiteral, hc, hcv, ih0, push]
      rw [List.cons_append, endsAt_readLiteral.read_replicate hr (by simpa using hc), hs]
      rfl

/-! ## The form of a string

What is left is that the opening quotes are taken for the form that was written, and that a block
loses the line break behind them and no other. -/

/-- A block that starts with a line break gets another one in front of it. -/
theorem dropNewline_opening (text : List Char) {cs : List Char}
    (h : '\n' ∉ text → cs.head? ≠ some '\n' ∧ cs.head? ≠ some '\r') :
    dropNewline (opening text ++ cs) = cs := by
  unfold opening
  split
  · simp [dropNewline, readNewline]
  · rename_i hn
    obtain ⟨h1, h2⟩ := h hn
    match cs with
    | [] => rfl
    | c :: cs =>
      simp only [List.head?_cons, ne_eq, Option.some.injEq] at h1 h2
      simp [dropNewline, readNewline, h1, h2]

/-- An escape starts with no line break. -/
theorem head?_escape_append_feed {c : Char} (h : c ≠ '\n') (cs : List Char) :
    (escape c ++ cs).head? ≠ some '\n' ∧ (escape c ++ cs).head? ≠ some '\r' := by
  unfold escape
  split
  case h_8 _ _ _ _ hr _ _ =>
    split
    · exact ⟨by simpa using h, by simpa using hr⟩
    · simp [escapeByNumber]
  all_goals simp

/-- A text without line breaks starts with none in a block. -/
theorem head?_escapeBlock_feed {text : List Char} (h : '\n' ∉ text) (run : Nat) {cs : List Char}
    (hc : cs.head? ≠ some '\n' ∧ cs.head? ≠ some '\r') :
    (escapeBlock run text ++ cs).head? ≠ some '\n'
      ∧ (escapeBlock run text ++ cs).head? ≠ some '\r' := by
  match text with
  | [] => exact hc
  | c :: text =>
    have hn : c ≠ '\n' := fun hn => h (by simp [hn])
    rw [escapeBlock]
    split
    · split <;> simp
    · rw [List.append_assoc]
      exact head?_escape_append_feed hn _

/-- A form without escapes is only taken for a text that it can hold. -/
theorem Form.fits_of {text : List Char} :
    (Form.of text = .literal → Form.literal.fits text = true)
      ∧ (Form.of text = .literalBlock → Form.literalBlock.fits text = true) := by
  unfold Form.of
  refine ⟨?_, ?_⟩ <;> (intro h; repeat' split at h) <;> simp_all

/-- A quote that no two more follow opens no block. -/
theorem read_eq_readOneLine {quote : Char} {cs : List Char} (h : ¬ [quote, quote] <+: cs) :
    read (quote :: cs) = readOneLine (quote :: cs) := by
  unfold read
  split
  · rename_i heq
    obtain ⟨rfl, rfl⟩ := List.cons.inj heq
    exact absurd ⟨_, rfl⟩ h
  · rename_i heq
    obtain ⟨rfl, rfl⟩ := List.cons.inj heq
    exact absurd ⟨_, rfl⟩ h
  · rfl

/-- **What was written is read.** A quote must not follow: it could be taken for one of the closing
quotes. -/
theorem read_write (s : String) {rest : List Char} (hd : rest.head? ≠ some '"')
    (hs : rest.head? ≠ some '\'') : read (write s ++ rest) = some (s, rest) := by
  have hof : ofChars (s.toList, rest) = (s, rest) := by simp [ofChars]
  obtain ⟨hl, hb⟩ := @Form.fits_of s.toList
  unfold write
  -- On one line the reader must not see a block: the quote that opens is followed by no two more.
  -- In a block it must not drop a line break that belongs to the text.
  generalize htext : s.toList = text at *
  cases hf : Form.of text with
  | basic =>
    have hn : ¬ ['"', '"'] <+: text.flatMap escape ++ '"' :: rest := by
      match text with
      | [] => exact not_pair_isPrefix_cons hd
      | c :: text =>
        rw [List.flatMap_cons, List.append_assoc]
        exact not_pair_isPrefix (head?_escape_append c _)
    simp only [Form.write, List.cons_append, List.append_assoc, List.nil_append]
    rw [read_eq_readOneLine hn, readOneLine, readBasic_flatMap_escape, Option.map_some, hof]
  | literal =>
    have hn : ¬ ['\'', '\''] <+: text ++ '\'' :: rest := by
      match text, hl hf with
      | [], _ => exact not_pair_isPrefix_cons hs
      | c :: text, h =>
        simp only [Form.fits, List.all_cons, Bool.and_eq_true, decide_eq_true_eq] at h
        exact not_pair_isPrefix (by simpa using h.1.2)
    simp only [Form.write, List.cons_append, List.append_assoc, List.nil_append]
    rw [read_eq_readOneLine hn, readOneLine, readLiteral_append (hl hf), Option.map_some, hof]
  | basicBlock =>
    have hr := readBasic_escapeBlock (Nat.zero_le 2) text hd
    simp only [List.replicate_zero, List.nil_append] at hr
    simp only [Form.write, List.cons_append, List.append_assoc, List.nil_append]
    simp only [read]
    rw [dropNewline_opening, hr, Option.map_some, hof]
    exact fun hn => head?_escapeBlock_feed hn 0 (by simp)
  | literalBlock =>
    have h := hb hf
    simp only [Form.fits, Bool.and_eq_true, List.all_eq_true, Bool.or_eq_true,
      decide_eq_true_eq] at h
    have hr := readLiteral_block h.1 h.2 hs
    simp only [List.replicate_zero, List.nil_append] at hr
    simp only [Form.write, List.cons_append, List.append_assoc, List.nil_append]
    simp only [read]
    rw [dropNewline_opening, hr, Option.map_some, hof]
    intro hn
    match text with
    | [] => simp
    | c :: text =>
      have hc : isVisible c = true :=
        (h.1 c (List.mem_cons_self ..)).resolve_right fun hc => hn (by simp [hc])
      refine ⟨fun he => ?_, fun he => ?_⟩ <;>
        (simp only [List.cons_append, List.head?_cons, Option.some.injEq] at he
         subst he
         exact absurd hc (by decide))

end TunnelOptions.Toml.Quoted

/-!
# White space at the ends of a text

Values that are given as text are read without the white space around them. White space here is that
of Unicode, which is a larger set than the one of ASCII and a different one from what separates the
items of a list.

What trimming does is stated as a relation. `Trimmed cs core` says that `core` is what is left of
`cs`: there is white space on both sides of it, and it neither starts nor ends with any. Every text
is so related to what `trim` makes of it, and to nothing else; so a proof that has some text in
front of it shows the relation and never looks at how the two ends are dropped. The relation also
says what happens when white space is added around a text, or when its letters change their case.

* `isBlank`: the white space characters of Unicode.
* `trim`: a text without the white space at its two ends.
* `Trimmed`, `Trimmed.trim_eq`, `trimmed_trim`: what is cut and what is left.
* `trim_append_append`, `trim_surrounded`: white space put around a text.
* `not_isBlank_of_visible`: what the texts of numbers and words are made of is none.
-/

set_option autoImplicit false

namespace TunnelOptions.Text

/-- Whether a character is white space in Unicode's sense, which takes in line breaks and the spaces
of other widths. -/
def isBlank (c : Char) : Bool :=
  let n := c.toNat
  (0x09 ≤ n && n ≤ 0x0d) || n == 0x20 || n == 0x85 || n == 0xa0 || n == 0x1680
    || (0x2000 ≤ n && n ≤ 0x200a) || n == 0x2028 || n == 0x2029 || n == 0x202f || n == 0x205f
    || n == 0x3000

/-- The text without the white space in front of it. -/
def trimStart (cs : List Char) : List Char :=
  cs.dropWhile isBlank

/-- The text without the white space behind it. -/
def trimEnd (cs : List Char) : List Char :=
  (cs.reverse.dropWhile isBlank).reverse

/-- The text without the white space at its two ends. -/
def trim (cs : List Char) : List Char :=
  trimEnd (trimStart cs)

/-- A text that starts with no white space keeps its start. -/
theorem trimStart_cons_of_not_isBlank {c : Char} {cs : List Char} (h : isBlank c = false) :
    trimStart (c :: cs) = c :: cs := by
  simp [trimStart, h]

/-- White space in front goes. -/
theorem trimStart_append {ws cs : List Char} (h : ∀ c ∈ ws, isBlank c = true) :
    trimStart (ws ++ cs) = trimStart cs := by
  induction ws with
  | nil => rfl
  | cons c ws ih =>
    have hc : isBlank c = true := h c (by simp)
    have ht : ∀ d ∈ ws, isBlank d = true := fun d hd => h d (by simp [hd])
    simpa [trimStart, hc] using ih ht

/-- White space behind goes. -/
theorem trimEnd_append {ws cs : List Char} (h : ∀ c ∈ ws, isBlank c = true) :
    trimEnd (cs ++ ws) = trimEnd cs := by
  have h' : ∀ c ∈ ws.reverse, isBlank c = true := fun c hc => h c (by simpa using hc)
  have : trimStart (ws.reverse ++ cs.reverse) = trimStart cs.reverse := trimStart_append h'
  simpa [trimEnd, trimStart] using congrArg List.reverse this

theorem trimStart_of_head? {cs : List Char} (h : ∀ c ∈ cs.head?, isBlank c = false) :
    trimStart cs = cs := by
  cases cs with
  | nil => rfl
  | cons c cs => exact trimStart_cons_of_not_isBlank (h c rfl)

/-- A text that ends with no white space keeps its end. -/
theorem trimEnd_of_getLast? {cs : List Char} (h : ∀ c ∈ cs.getLast?, isBlank c = false) :
    trimEnd cs = cs := by
  have hstart : trimStart cs.reverse = cs.reverse :=
    trimStart_of_head? (by rwa [List.head?_reverse])
  rw [trimEnd, ← trimStart, hstart, List.reverse_reverse]

/-- White space at the two ends of a text, and what is between them, which neither starts nor ends
with any. -/
structure Trimmed (cs core : List Char) : Prop where
  surrounded : ∃ before after, cs = before ++ core ++ after
    ∧ (∀ c ∈ before, isBlank c = true) ∧ ∀ c ∈ after, isBlank c = true
  head : ∀ c ∈ core.head?, isBlank c = false
  last : ∀ c ∈ core.getLast?, isBlank c = false

/-- **All white space at the two ends goes, and nothing else.** -/
theorem Trimmed.trim_eq {cs core : List Char} (h : Trimmed cs core) : trim cs = core := by
  obtain ⟨before, after, rfl, hbefore, hafter⟩ := h.surrounded
  rw [trim, List.append_assoc, trimStart_append hbefore]
  cases core with
  | nil =>
    have hnone : trimStart (after ++ []) = trimStart [] := trimStart_append hafter
    rw [List.append_nil] at hnone
    rw [List.nil_append, hnone]
    rfl
  | cons c core =>
    rw [List.cons_append, trimStart_cons_of_not_isBlank (h.head c rfl), ← List.cons_append,
      trimEnd_append hafter, trimEnd_of_getLast? h.last]

theorem trimStart_isTrimmed (cs : List Char) :
    (∃ before, cs = before ++ trimStart cs ∧ ∀ c ∈ before, isBlank c = true)
    ∧ ∀ c ∈ (trimStart cs).head?, isBlank c = false := by
  induction cs with
  | nil => exact ⟨⟨[], rfl, by simp⟩, by simp [trimStart]⟩
  | cons c cs ih =>
    by_cases hc : isBlank c = true
    · have hcut : trimStart (c :: cs) = trimStart cs := by simp [trimStart, hc]
      obtain ⟨⟨before, hcs, hbefore⟩, hhead⟩ := ih
      rw [hcut]
      refine ⟨⟨c :: before, ?_, List.forall_mem_cons.2 ⟨hc, hbefore⟩⟩, hhead⟩
      rw [List.cons_append, ← hcs]
    · rw [trimStart_cons_of_not_isBlank (Bool.not_eq_true _ ▸ hc)]
      refine ⟨⟨[], rfl, by simp⟩, ?_⟩
      simpa using hc

/-- Every text is what `trim` leaves of it with white space around. -/
theorem trimmed_trim (cs : List Char) : Trimmed cs (trim cs) := by
  obtain ⟨⟨before, hcs, hbefore⟩, hhead⟩ := trimStart_isTrimmed cs
  obtain ⟨⟨behind, hrest, hbehind⟩, hlast⟩ := trimStart_isTrimmed (trimStart cs).reverse
  have hcore : trim cs = (trimStart (trimStart cs).reverse).reverse := rfl
  have hsplit : trimStart cs = trim cs ++ behind.reverse := by
    rw [hcore, ← List.reverse_append, ← hrest, List.reverse_reverse]
  refine ⟨⟨before, behind.reverse, ?_, hbefore, by simpa using hbehind⟩, ?_, ?_⟩
  · rw [List.append_assoc, ← hsplit]
    exact hcs
  · intro c hc
    refine hhead c ?_
    rw [hsplit, List.head?_append, Option.mem_def.1 hc]
    rfl
  · rw [hcore]
    simpa [List.getLast?_reverse] using hlast

/-- White space that is put around a text makes no difference. -/
theorem trim_append_append {before after : List Char} (hbefore : ∀ c ∈ before, isBlank c = true)
    (hafter : ∀ c ∈ after, isBlank c = true) (cs : List Char) :
    trim (before ++ cs ++ after) = trim cs := by
  have htrim := trimmed_trim cs
  obtain ⟨front, back, hcs, hfront, hback⟩ := htrim.surrounded
  refine Trimmed.trim_eq ⟨⟨before ++ front, back ++ after, ?_, ?_, ?_⟩, htrim.head, htrim.last⟩
  · calc before ++ cs ++ after = before ++ (front ++ trim cs ++ back) ++ after := by rw [← hcs]
      _ = before ++ front ++ trim cs ++ (back ++ after) := by simp
  · exact List.forall_mem_append.2 ⟨hbefore, hfront⟩
  · exact List.forall_mem_append.2 ⟨hback, hafter⟩

/-- **Around a text without white space, all white space goes.** -/
theorem trim_surrounded {before cs after : List Char} (hbefore : ∀ c ∈ before, isBlank c = true)
    (hcs : ∀ c ∈ cs, isBlank c = false) (hafter : ∀ c ∈ after, isBlank c = true) :
    trim (before ++ cs ++ after) = cs :=
  Trimmed.trim_eq
    { surrounded := ⟨before, after, rfl, hbefore, hafter⟩
      head := fun c hc => hcs c (List.mem_of_mem_head? hc)
      last := fun c hc => hcs c (List.mem_of_mem_getLast? hc) }

/-- White space of a text stays where it is when its characters change and white space does not. -/
theorem Trimmed.map {f : Char → Char} (hf : ∀ c, isBlank (f c) = isBlank c) {cs core : List Char}
    (h : Trimmed cs core) : Trimmed (cs.map f) (core.map f) := by
  obtain ⟨before, after, rfl, hbefore, hafter⟩ := h.surrounded
  refine ⟨⟨before.map f, after.map f, by simp, ?_, ?_⟩, ?_, ?_⟩
  · simpa [hf] using hbefore
  · simpa [hf] using hafter
  · simpa [hf] using h.head
  · simpa [hf] using h.last

/-- Visible ASCII is no white space. -/
theorem not_isBlank_of_visible {c : Char} (h : 0x20 < c.toNat ∧ c.toNat < 0x7f) :
    isBlank c = false := by
  simp only [isBlank, Bool.or_eq_false_iff, Bool.and_eq_false_iff, decide_eq_false_iff_not,
    beq_eq_false_iff_ne]
  omega

theorem not_isBlank_of_isDigit {c : Char} (h : c.isDigit = true) : isBlank c = false := by
  have hrange : 48 ≤ c.toNat ∧ c.toNat ≤ 57 := Char.isDigit_iff_toNat.1 h
  exact not_isBlank_of_visible (by omega)

end TunnelOptions.Text

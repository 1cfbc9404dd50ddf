import TunnelOptions.Proofs.IntegerTexts

/-!
# Truth values given as text

A text is read as a truth value by three rules, one after the other: nothing is false, a literal of
64 bits is true when it is not zero, and of anything else the first letter decides. The order of the
rules does not matter, because no text falls under two of them: a literal starts with a sign or a
digit, and a literal that does not fit 64 bits, which is passed on to the letters, is refused there.
So the rules can be said side by side, and how a number is padded or a word is capitalised makes no
difference.

`SaysTrue` and `SaysFalse` are the rules side by side, as two sets of texts, and neither mentions
the reader. `readBool_eq` says that the reader finds which of the two a text is in. Whatever then
leaves both sets as they are leaves the reading as it is: zeros in front and a plus keep the value
of a literal, and lower case keeps both the letters and the literals, since a literal has no letters
in it.

Every invariance is therefore shown of the sets first and carried over to the reader by one lemma,
`toOption_readBool_congr`. Faults are left out there because they name the text that was given.

* `Text.SaysTrue`, `Text.SaysFalse`: the texts that stand for the two truth values.
* `Text.saysTrue_text_iff`, `Text.saysFalse_text_iff`: what literals say.
* `Text.saysTrue_map_toLower`, `Text.saysFalse_map_toLower`: capital letters say what small ones do.
* `readBool_eq`: the reader finds what a text says.
* `toOption_readBool_congr`: texts that say the same are read alike.
* `Value.asBool_text_by_rules`: **texts are read as truth values by one consistent language.**
-/

set_option autoImplicit false

namespace TunnelOptions

open Number

/-! ## Letters in either case

Lower case changes the capital letters of ASCII and nothing else, so it makes no white space and
takes none away, and commutes with trimming. -/

namespace Text

/-- Only the capital letters of ASCII change in lower case. -/
theorem toNat_toLower (c : Char) :
    c.toLower.toNat = if 65 ≤ c.toNat ∧ c.toNat ≤ 90 then c.toNat + 32 else c.toNat := by
  have hrange : (c.val ≥ 'A'.val ∧ c.val ≤ 'Z'.val) ↔ 65 ≤ c.toNat ∧ c.toNat ≤ 90 := by
    simp [UInt32.le_iff_toNat_le]
  delta Char.toLower
  by_cases h : 65 ≤ c.toNat ∧ c.toNat ≤ 90
  · rw [dif_pos (hrange.2 h), if_pos h]
    show (c.val + ('a'.val - 'A'.val)).toNat = c.val.toNat + 32
    have hle : c.val.toNat ≤ 90 := h.2
    have hstep : ('a'.val - 'A'.val).toNat = 32 := rfl
    rw [UInt32.toNat_add, hstep]
    omega
  · rw [dif_neg (fun hc => h (hrange.1 hc)), if_neg h]

theorem isBlank_toLower (c : Char) : isBlank c.toLower = isBlank c := by
  have hlower := toNat_toLower c
  by_cases h : 65 ≤ c.toNat ∧ c.toNat ≤ 90
  · rw [if_pos h] at hlower
    rw [not_isBlank_of_visible (by omega), not_isBlank_of_visible (by omega)]
  · rw [if_neg h, Char.toNat_inj] at hlower
    rw [hlower]

theorem toLower_eq_iff {c small capital : Char} (hsmall : 97 ≤ small.toNat ∧ small.toNat ≤ 122)
    (hcapital : capital.toNat + 32 = small.toNat) :
    c.toLower = small ↔ c = small ∨ c = capital := by
  have hlower := toNat_toLower c
  rw [← Char.toNat_inj, ← Char.toNat_inj, ← Char.toNat_inj, hlower]
  split <;> omega

theorem toLower_eq_self {c : Char} (h : c.toNat < 65 ∨ c.toLower.toNat < 65) : c.toLower = c := by
  have hlower := toNat_toLower c
  rw [← Char.toNat_inj]
  split at hlower <;> omega

theorem trim_map_toLower (cs : List Char) :
    trim (cs.map Char.toLower) = (trim cs).map Char.toLower :=
  ((trimmed_trim cs).map isBlank_toLower).trim_eq

/-! ## What texts say

A literal never starts with one of the letters, so at most one rule applies to a text, and what a
literal says is a matter of its value alone. -/

/-- The letters that stand for the truth values. -/
def trueLetters : List Char :=
  ['t', 'T', 'y', 'Y']

@[inherit_doc trueLetters]
def falseLetters : List Char :=
  ['f', 'F', 'n', 'N']

/-- A text says yes: as a number that is not zero, or by its first letter. -/
def SaysTrue (cs : List Char) : Prop :=
  (∃ literal : Literal, literal.text = cs ∧ FitsInt64 literal.value ∧ literal.value ≠ 0)
  ∨ ∃ c ∈ cs.head?, c ∈ trueLetters

/-- A text says no: as nothing at all, as a number that is zero, or by its first letter. -/
def SaysFalse (cs : List Char) : Prop :=
  cs = [] ∨ (∃ literal : Literal, literal.text = cs ∧ literal.value = 0)
  ∨ ∃ c ∈ cs.head?, c ∈ falseLetters

/-- No literal starts with one of the letters. -/
theorem not_mem_letters_of_literal (literal : Literal) {c : Char} (h : c ∈ literal.text.head?) :
    c ∉ trueLetters ++ falseLetters := by
  have hlt := literal.toNat_lt_of_mem_text (List.mem_of_mem_head? h)
  intro hletter
  simp only [trueLetters, falseLetters, List.cons_append, List.nil_append, List.mem_cons,
    List.not_mem_nil, or_false] at hletter
  rcases hletter with rfl | rfl | rfl | rfl | rfl | rfl | rfl | rfl <;> simp at hlt

theorem saysTrue_text_iff (literal : Literal) :
    SaysTrue literal.text ↔ FitsInt64 literal.value ∧ literal.value ≠ 0 := by
  constructor
  · rintro (⟨other, htext, hfits, hvalue⟩ | ⟨c, hc, hletter⟩)
    · have hsame := other.value_eq_of_text_eq htext hfits
      rw [hsame] at hfits hvalue
      exact ⟨hfits, hvalue⟩
    · exact absurd (List.mem_append_left _ hletter) (not_mem_letters_of_literal literal hc)
  · rintro ⟨hfits, hvalue⟩
    exact .inl ⟨literal, rfl, hfits, hvalue⟩

theorem saysFalse_text_iff (literal : Literal) :
    SaysFalse literal.text ↔ literal.value = 0 := by
  constructor
  · rintro (hnil | ⟨other, htext, hvalue⟩ | ⟨c, hc, hletter⟩)
    · exact absurd hnil literal.text_ne_nil
    · have hfits : FitsInt64 other.value := by simp [hvalue, FitsInt64, leastInt64, greatestInt64]
      rw [← other.value_eq_of_text_eq htext hfits, hvalue]
    · exact absurd (List.mem_append_right _ hletter) (not_mem_letters_of_literal literal hc)
  · intro hvalue
    exact .inr (.inl ⟨literal, rfl, hvalue⟩)

/-- A text that is no literal of 64 bits says what its first letter says. -/
theorem saysTrue_cons_iff {c : Char} {cs : List Char} (h : ∀ n, readInt64 (c :: cs) ≠ .ok n) :
    SaysTrue (c :: cs) ↔ c ∈ trueLetters := by
  constructor
  · rintro (⟨literal, htext, hfits, -⟩ | ⟨d, hd, hletter⟩)
    · exact absurd (readInt64_eq_ok_iff.2 ⟨literal, htext, hfits.toInt_ofInt.symm⟩) (h _)
    · rwa [← Option.some.inj hd] at hletter
  · intro hletter
    exact .inr ⟨c, rfl, hletter⟩

theorem saysFalse_cons_iff {c : Char} {cs : List Char} (h : ∀ n, readInt64 (c :: cs) ≠ .ok n) :
    SaysFalse (c :: cs) ↔ c ∈ falseLetters := by
  constructor
  · rintro (hnil | ⟨literal, htext, hvalue⟩ | ⟨d, hd, hletter⟩)
    · cases hnil
    · have hzero : literal.value = (0 : Int64).toInt := hvalue.trans Int64.toInt_zero.symm
      exact absurd (readInt64_eq_ok_iff.2 ⟨literal, htext, hzero⟩) (h 0)
    · rwa [← Option.some.inj hd] at hletter
  · intro hletter
    exact .inr (.inr ⟨c, rfl, hletter⟩)

/-! ## Capital letters

A text is a literal exactly if it is one in lower case, because a literal is below all letters. -/

/-- No text becomes a literal in lower case, and none stops being one. -/
theorem text_eq_map_toLower_iff {literal : Literal} {cs : List Char} :
    literal.text = cs.map Char.toLower ↔ literal.text = cs := by
  have hsame (h : ∀ c ∈ cs, c.toNat < 65 ∨ c.toLower.toNat < 65) : cs.map Char.toLower = cs :=
    (List.map_congr_left fun c hc => toLower_eq_self (h c hc)).trans (List.map_id cs)
  constructor
  · intro h
    rw [h, hsame]
    intro c hc
    exact .inr (literal.toNat_lt_of_mem_text (h ▸ List.mem_map_of_mem hc))
  · rintro rfl
    exact (hsame fun c hc => .inl (literal.toNat_lt_of_mem_text hc)).symm

theorem toLower_mem_letters_iff (c : Char) :
    (c.toLower ∈ trueLetters ↔ c ∈ trueLetters)
    ∧ (c.toLower ∈ falseLetters ↔ c ∈ falseLetters) := by
  have hlower := toNat_toLower c
  simp only [trueLetters, falseLetters, List.mem_cons, List.not_mem_nil, or_false,
    ← Char.toNat_inj, Char.reduceToNat]
  split at hlower <;> refine ⟨?_, ?_⟩ <;> omega

/-- Capital letters say what small ones do. -/
theorem saysTrue_map_toLower (cs : List Char) :
    SaysTrue (cs.map Char.toLower) ↔ SaysTrue cs := by
  simp only [SaysTrue, text_eq_map_toLower_iff, List.head?_map]
  cases cs with
  | nil => simp
  | cons c cs => simp [(toLower_mem_letters_iff c).1]

theorem saysFalse_map_toLower (cs : List Char) :
    SaysFalse (cs.map Char.toLower) ↔ SaysFalse cs := by
  simp only [SaysFalse, text_eq_map_toLower_iff, List.head?_map, List.map_eq_nil_iff]
  cases cs with
  | nil => simp
  | cons c cs => simp [(toLower_mem_letters_iff c).2]

end Text

/-! ## Reading

The reader lowers the first letter and compares; the rules list both cases of it. -/

/-- What is not a literal of 64 bits is read by its first letter. -/
theorem readBool_cons {c : Char} {cs : List Char} (h : ∀ n, readInt64 (c :: cs) ≠ .ok n) :
    readBool (c :: cs)
      = if c ∈ Text.trueLetters then .ok true
        else if c ∈ Text.falseLetters then .ok false
        else .error (.noBoolean (String.ofList (c :: cs))) := by
  have ht : c.toLower = 't' ↔ c = 't' ∨ c = 'T' := Text.toLower_eq_iff (by decide) rfl
  have hy : c.toLower = 'y' ↔ c = 'y' ∨ c = 'Y' := Text.toLower_eq_iff (by decide) rfl
  have hf : c.toLower = 'f' ↔ c = 'f' ∨ c = 'F' := Text.toLower_eq_iff (by decide) rfl
  have hn : c.toLower = 'n' ↔ c = 'n' ∨ c = 'N' := Text.toLower_eq_iff (by decide) rfl
  have htrue : c ∈ Text.trueLetters ↔ c.toLower = 't' ∨ c.toLower = 'y' := by
    simp [Text.trueLetters, ht, hy, or_assoc]
  have hfalse : c ∈ Text.falseLetters ↔ c.toLower = 'f' ∨ c.toLower = 'n' := by
    simp [Text.falseLetters, hf, hn, or_assoc]
  simp only [htrue, hfalse]
  cases hread : readInt64 (c :: cs) with
  | ok n => exact absurd hread (h n)
  | error fault =>
    rw [readBool, hread]
    dsimp only
    split <;> simp_all

/-- **A text is read as what it says**, and refused if it says neither. -/
theorem readBool_eq (cs : List Char) :
    (readBool cs = .ok true ↔ Text.SaysTrue cs) ∧ (readBool cs = .ok false ↔ Text.SaysFalse cs)
    ∧ (¬ Text.SaysTrue cs → ¬ Text.SaysFalse cs →
      readBool cs = .error (.noBoolean (String.ofList cs))) := by
  cases cs with
  | nil =>
    have htrue : ¬ Text.SaysTrue [] := by simp [Text.SaysTrue, Literal.text_ne_nil]
    have hfalse : Text.SaysFalse [] := .inl rfl
    simp [readBool, htrue, hfalse]
  | cons c cs =>
    by_cases hread : ∃ n, readInt64 (c :: cs) = .ok n
    · obtain ⟨n, hn⟩ := hread
      obtain ⟨literal, htext, hvalue⟩ := readInt64_eq_ok_iff.1 hn
      have hfits : FitsInt64 literal.value := hvalue ▸ fitsInt64_toInt n
      rw [readBool_of_readInt64 hn, ← htext, Text.saysTrue_text_iff, Text.saysFalse_text_iff,
        ← hvalue]
      by_cases hzero : literal.value = 0 <;> simp [hzero, hfits]
    · have hnone : ∀ n, readInt64 (c :: cs) ≠ .ok n := fun n hn => hread ⟨n, hn⟩
      rw [readBool_cons hnone, Text.saysTrue_cons_iff hnone, Text.saysFalse_cons_iff hnone]
      by_cases htrue : c ∈ Text.trueLetters
      · have hfalse : c ∉ Text.falseLetters := by
          simp only [Text.trueLetters, Text.falseLetters, List.mem_cons] at htrue ⊢
          rcases htrue with rfl | rfl | rfl | rfl | h <;> simp_all
        simp [htrue, hfalse]
      · by_cases hfalse : c ∈ Text.falseLetters <;> simp [htrue, hfalse]

/-- Texts that say the same are read alike. -/
theorem toOption_readBool_congr {cs other : List Char}
    (htrue : Text.SaysTrue other ↔ Text.SaysTrue cs)
    (hfalse : Text.SaysFalse other ↔ Text.SaysFalse cs) :
    (readBool other).toOption = (readBool cs).toOption := by
  obtain ⟨htrue₁, hfalse₁, -⟩ := readBool_eq other
  obtain ⟨htrue₂, hfalse₂, -⟩ := readBool_eq cs
  have hsame (b : Bool) : readBool other = .ok b ↔ readBool cs = .ok b := by
    cases b with
    | true => rw [htrue₁, htrue₂, htrue]
    | false => rw [hfalse₁, hfalse₂, hfalse]
  cases hread : readBool cs with
  | ok b => rw [(hsame b).2 hread]
  | error reason =>
    cases hother : readBool other with
    | ok b => exact absurd ((hsame b).1 hother) (by simp [hread])
    | error fault => rfl

namespace Value

/-- **Texts are read as truth values by one consistent language.** Without the white space around
it, a text is true if it is a literal of 64 bits that is not zero or starts with one of the letters
`t` and `y`, and false if it is nothing, is a literal that is zero or starts with one of `f` and
`n`, in either case; everything else is refused under the key. So white space around the text,
capital letters in place of small ones, zeros in front of the digits of a literal, and a plus in
front of one without a sign make no difference, and no literal starts with one of the letters. -/
theorem asBool_text_by_rules (key s : String) :
    let read (s : String) := Reason.about key (text s).asBool
    let core := Text.trim s.toList
    Text.Trimmed s.toList core
    ∧ ((read s = .ok true ↔ Text.SaysTrue core) ∧ (read s = .ok false ↔ Text.SaysFalse core)
      ∧ (¬ Text.SaysTrue core → ¬ Text.SaysFalse core →
        read s = .error (.invalid key (.noBoolean (String.ofList core)))))
    ∧ (∀ before after : List Char, (∀ c ∈ before, Text.isBlank c = true) →
      (∀ c ∈ after, Text.isBlank c = true) →
      read (String.ofList (before ++ s.toList ++ after)) = read s)
    ∧ (∀ other : String, other.toList.map Char.toLower = s.toList.map Char.toLower →
      (read other).toOption = (read s).toOption)
    ∧ ∀ literal : Literal, literal.text = core →
      (∀ (zeros : Nat) (other : String), Text.trim other.toList = (literal.pad zeros).text →
        (read other).toOption = (read s).toOption)
      ∧ (literal.sign = .absent → ∀ other : String,
        Text.trim other.toList = literal.signed.text →
        (read other).toOption = (read s).toOption)
      ∧ ∀ c ∈ core.head?, c ∉ Text.trueLetters ++ Text.falseLetters := by
  intro read core
  have hread (s : String) : read s = Reason.about key (readBool (Text.trim s.toList)) := rfl
  have hagree (other : String)
      (htrue : Text.SaysTrue (Text.trim other.toList) ↔ Text.SaysTrue core)
      (hfalse : Text.SaysFalse (Text.trim other.toList) ↔ Text.SaysFalse core) :
      (read other).toOption = (read s).toOption := by
    rw [hread, hread, Reason.toOption_about, Reason.toOption_about]
    exact toOption_readBool_congr htrue hfalse
  -- The rules are those of the trimmed text; the rest are texts to which the same rules apply.
  refine ⟨Text.trimmed_trim _, ?_, ?_, ?_, ?_⟩
  · obtain ⟨htrue, hfalse, hneither⟩ := readBool_eq core
    refine ⟨?_, ?_, fun hnotTrue hnotFalse => ?_⟩
    · rw [hread, Reason.about_eq_ok_iff, htrue]
    · rw [hread, Reason.about_eq_ok_iff, hfalse]
    · rw [hread, hneither hnotTrue hnotFalse, Reason.about]
  · intro before after hbefore hafter
    rw [hread, hread, String.toList_ofList, Text.trim_append_append hbefore hafter]
  · intro other hother
    have hlower : (Text.trim other.toList).map Char.toLower = core.map Char.toLower := by
      rw [← Text.trim_map_toLower, hother, Text.trim_map_toLower]
    refine hagree other ?_ ?_
    · rw [← Text.saysTrue_map_toLower, hlower, Text.saysTrue_map_toLower]
    · rw [← Text.saysFalse_map_toLower, hlower, Text.saysFalse_map_toLower]
  · intro literal htext
    -- A literal is judged by its value alone, and neither zeros nor a plus change that.
    have hvalue (again : Literal) (hsame : again.value = literal.value) (other : String)
        (hother : Text.trim other.toList = again.text) :
        (read other).toOption = (read s).toOption := by
      refine hagree other ?_ ?_
      · rw [hother, ← htext, Text.saysTrue_text_iff, Text.saysTrue_text_iff, hsame]
      · rw [hother, ← htext, Text.saysFalse_text_iff, Text.saysFalse_text_iff, hsame]
    refine ⟨fun zeros => hvalue _ (literal.value_pad zeros), fun hsign => ?_, ?_⟩
    · exact hvalue _ (Literal.value_signed hsign)
    · intro c hc
      exact Text.not_mem_letters_of_literal literal (htext ▸ hc)

/-- Padding and capitals make no difference, up to the greatest integer of 64 bits; one more than it
is no truth value at all. -/
theorem asBool_text_by_rules_beyond :
    let read (s : String) := Reason.about "keepAlive" (text s).asBool
    (∀ c ∈ ['\u2003', '\n'], Text.isBlank c = true)
    ∧ read (String.ofList (['\u2003', '\n'] ++ "yEs".toList ++ [])) = .ok true
    ∧ "YeS".toList.map Char.toLower = "yEs".toList.map Char.toLower
    ∧ (read "YeS").toOption = some true
    ∧ beyond64.text = Text.trim "9223372036854775808".toList
    ∧ read "9223372036854775808"
      = .error (.invalid "keepAlive" (.noBoolean "9223372036854775808"))
    ∧ (read " 009223372036854775808").toOption = none := by
  intro read
  have hblank : ∀ c ∈ ['\u2003', '\n'], Text.isBlank c = true := by simp [Text.isBlank]
  obtain ⟨-, ⟨htrue, -⟩, haround, hcase, -⟩ := asBool_text_by_rules "keepAlive" "yEs"
  obtain ⟨-, ⟨-, -, hneither⟩, -, -, hliteral⟩ :=
    asBool_text_by_rules "keepAlive" "9223372036854775808"
  have hvalue : beyond64.value = 9223372036854775808 := rfl
  have hyes : read "yEs" = .ok true := htrue.2 (.inr ⟨'y', rfl, by decide⟩)
  have hno : read "9223372036854775808"
      = .error (.invalid "keepAlive" (.noBoolean "9223372036854775808")) := by
    refine hneither ?_ ?_
    · rw [show Text.trim _ = beyond64.text from rfl, Text.saysTrue_text_iff, hvalue]
      simp [FitsInt64, greatestInt64]
    · rw [show Text.trim _ = beyond64.text from rfl, Text.saysFalse_text_iff, hvalue]
      simp
  refine ⟨hblank, ?_, rfl, ?_, rfl, hno, ?_⟩
  · exact (haround _ [] hblank (by simp)).trans hyes
  · exact (hcase "YeS" rfl).trans (congrArg Except.toOption hyes)
  · exact ((hliteral beyond64 rfl).1 2 _ rfl).trans (congrArg Except.toOption hno)

end Value

end TunnelOptions

import TunnelOptions.Proofs.Decimal
import TunnelOptions.Toml.Document
import TunnelOptions.Toml.Layout
import TunnelOptions.Toml.Quoted.RoundTrip

/-!
# Scalars read back

A string, an integer and a truth value are read as they were written, when what stands behind them
is what may stand behind a value: the end of its line, a comma, or the end of an array.

Strings carry their quotes and truth values are two words, so the work is with the integers. They
share their first characters with floats, with numbers of other bases and with date-times, and the
reader tries some of these before an integer. Each of them is ruled out by the character that ends
the digits, and that is why the characters behind a value are named (`isStop`) and not left
arbitrary.

* `isStop`: what stands behind a written value.
* `Datetime.read_eq_none`: a written integer is not mistaken for a date or a time.
* `Numeral.readSigned_digitsOf`: the digits behind a sign are read as the integer.
* `Numeral.read_toString`: so is the whole number, whose sign and digits are told from the mark of
  another base.
* `readScalar_string`, `readScalar_integer`, `readScalar_boolean`: the scalars.
-/

set_option autoImplicit false

namespace TunnelOptions.Toml

/-- Whether a character is one that stands behind a written value. -/
def isStop (c : Char) : Bool :=
  c = '\n' || c = ',' || c = ']'

theorem isStop_iff {c : Char} : isStop c = true ↔ c = '\n' ∨ c = ',' ∨ c = ']' := by
  simp [isStop, or_assoc]

theorem not_isDigit_of_isStop {c : Char} (h : isStop c = true) : c.isDigit = false := by
  rcases isStop_iff.1 h with rfl | rfl | rfl <;> rfl

/-! ## Digits

Digits are asked for in two ways, by what they are worth and as characters. They come to the same.
-/

theorem isSome_digitBelow?_ten (c : Char) : (Text.digitBelow? 10 c).isSome = c.isDigit := by
  unfold Text.digitBelow? Text.digitValue?
  cases hc : c.isDigit with
  | true =>
    have hle := (Char.isDigit_iff_toNat.1 hc).2
    have hlt : c.toNat - '0'.toNat < 10 := by
      have h0 : '0'.toNat = 48 := rfl
      have h9 : '9'.toNat = 57 := rfl
      omega
    simp only [if_true, Option.filter_some, hlt, decide_true, Option.isSome_some]
  | false =>
    rw [if_neg (by decide)]
    split
    · simp [Option.filter_some]
    · split <;> simp [Option.filter_some]

/-- What comes first that is no digit. -/
theorem dropWhile_isDigit {ds : List Char} (hds : ∀ d ∈ ds, d.isDigit = true) {c : Char}
    (hc : c.isDigit = false) (cs : List Char) :
    (ds ++ c :: cs).dropWhile Char.isDigit = c :: cs := by
  rw [List.dropWhile_append_of_pos hds, List.dropWhile_cons_of_neg (by simp [hc])]

/-! ## Dates and times

A figure is tried as a date-time before it is tried as a number, and both start with digits. What
tells them apart is the character that ends the digits: a hyphen, a colon, or what stands behind a
value. -/

theorem readChar_eq_some {c : Char} {cs rest : List Char} (h : readChar c cs = some rest) :
    cs = c :: rest := by
  cases cs with
  | nil => exact nomatch h
  | cons d cs =>
    rw [readChar] at h
    split at h
    · rename_i hd
      rw [hd, Option.some_inj.1 h]
    · exact nomatch h

/-- Places are digits. -/
theorem readPlaces_eq_some {count value n : Nat} {cs rest : List Char}
    (h : readPlaces count value cs = some (n, rest)) :
    ∃ ds, (∀ d ∈ ds, d.isDigit = true) ∧ cs = ds ++ rest := by
  induction count generalizing value cs with
  | zero =>
    rw [readPlaces, Option.some_inj, Prod.mk.injEq] at h
    exact ⟨[], by simp, h.2⟩
  | succ count ih =>
    cases cs with
    | nil => exact nomatch h
    | cons c cs =>
      rw [readPlaces] at h
      simp only [Option.bind_eq_bind, Option.bind_eq_some_iff] at h
      obtain ⟨d, hd, h⟩ := h
      obtain ⟨ds, hds, hcs⟩ := ih h
      have hc : c.isDigit = true := by rw [← isSome_digitBelow?_ten, hd]; rfl
      refine ⟨c :: ds, ?_, by rw [hcs, List.cons_append]⟩
      intro e he
      rcases List.mem_cons.1 he with rfl | he
      · exact hc
      · exact hds e he

/-- The digits at the start of a date end with a hyphen. -/
theorem Date.digits_of_read {cs rest : List Char} {day : Date}
    (h : Date.read cs = some (day, rest)) :
    ∃ ds more, (∀ d ∈ ds, d.isDigit = true) ∧ cs = ds ++ '-' :: more := by
  simp only [Date.read, Option.bind_eq_bind, Option.bind_eq_some_iff] at h
  obtain ⟨⟨year, after⟩, hyear, more, hhyphen, -⟩ := h
  obtain ⟨ds, hds, hcs⟩ := readPlaces_eq_some hyear
  have hafter : after = '-' :: more := readChar_eq_some hhyphen
  exact ⟨ds, more, hds, by rw [hcs, hafter]⟩

/-- The digits at the start of a time end with a colon. -/
theorem Time.digits_of_read {cs rest : List Char} {hour : Time}
    (h : Time.read cs = some (hour, rest)) :
    ∃ ds more, (∀ d ∈ ds, d.isDigit = true) ∧ cs = ds ++ ':' :: more := by
  simp only [Time.read, readClock, Option.bind_eq_bind, Option.bind_eq_some_iff] at h
  obtain ⟨clock, ⟨⟨hours, after⟩, hhours, more, hcolon, -⟩, -⟩ := h
  obtain ⟨ds, hds, hcs⟩ := readPlaces_eq_some hhours
  have hafter : after = ':' :: more := readChar_eq_some hcolon
  exact ⟨ds, more, hds, by rw [hcs, hafter]⟩

/-- Digits that neither a hyphen nor a colon ends are no date-time. -/
theorem Datetime.read_eq_none {ds : List Char} (hds : ∀ d ∈ ds, d.isDigit = true) {c : Char}
    (hc : c.isDigit = false) (hhyphen : c ≠ '-') (hcolon : c ≠ ':') (rest : List Char) :
    Datetime.read (ds ++ c :: rest) = none := by
  -- Without the digits in front, both texts start with the character that ends them.
  have hend : ∀ {es more : List Char} {e : Char}, (∀ d ∈ es, d.isDigit = true) →
      e.isDigit = false → ds ++ c :: rest = es ++ e :: more → c = e := by
    intro es more e hes he heq
    have hdrop := congrArg (List.dropWhile Char.isDigit) heq
    rw [dropWhile_isDigit hds hc, dropWhile_isDigit hes he] at hdrop
    exact (List.cons.inj hdrop).1
  rw [Datetime.read]
  cases hdate : Date.read (ds ++ c :: rest) with
  | some read =>
    obtain ⟨es, more, hes, heq⟩ := Date.digits_of_read hdate
    exact absurd (hend hes rfl heq) hhyphen
  | none =>
    cases htime : Time.read (ds ++ c :: rest) with
    | none => rfl
    | some read =>
      obtain ⟨es, more, hes, heq⟩ := Time.digits_of_read htime
      exact absurd (hend hes rfl heq) hcolon

/-- Nothing that starts with a sign is a date-time. -/
theorem Datetime.read_minus (cs : List Char) : Datetime.read ('-' :: cs) = none := rfl

/-! ## Integers

What is written has neither an underscore nor a needless zero in front, so the reader finds one run
of digits and no mark behind it. -/

namespace Numeral

/-- A run of digits is read up to what ends it. -/
theorem readMore_append {ds : List Char} (hds : ∀ d ∈ ds, d.isDigit = true) {c : Char}
    (hc : c.isDigit = false) (hunderscore : c ≠ '_') (rest : List Char) :
    readMore 10 (ds ++ c :: rest) = some (ds, c :: rest) := by
  induction ds with
  | nil =>
    unfold readMore
    simp only [List.nil_append, isSome_digitBelow?_ten, hc, Bool.false_eq_true, if_false,
      hunderscore]
  | cons d ds ih =>
    have hd : d.isDigit = true := hds d List.mem_cons_self
    have hmore := ih fun e he => hds e (List.mem_cons_of_mem d he)
    unfold readMore
    simp only [List.cons_append, isSome_digitBelow?_ten, hd, if_true, hmore, Option.map_some]

/-- The digits of a written integer have no needless zero, and are read as they stand. -/
theorem readWhole_digitsOf (n : Int) {c : Char} (hc : isStop c = true) (rest : List Char) :
    readWhole (Number.digitsOf n ++ c :: rest) = some (Number.digitsOf n, c :: rest) := by
  have hdigits : ∀ d ∈ Number.digitsOf n, d.isDigit = true :=
    fun d => Number.isDigit_of_mem_digitsOf
  have hunderscore : c ≠ '_' := ne_of_apply_ne isStop (by rw [hc]; decide)
  have hmore := readMore_append hdigits (not_isDigit_of_isStop hc) hunderscore rest
  obtain ⟨d, ds, hds, hd, hzero⟩ := Number.digitsOf_eq_cons n
  rw [hds, List.cons_append] at hmore ⊢
  unfold readWhole
  split
  · rename_i heq
    obtain ⟨rfl, hcs⟩ := List.cons.inj heq
    rw [← hcs, hzero rfl]
    rfl
  · simp only [readRun, isSome_digitBelow?_ten, hd, if_true, hmore]

/-- A written integer is no word. -/
theorem readWord_digitsOf (sign : List Char) (n : Int) (cs : List Char) :
    readWord sign (Number.digitsOf n ++ cs) = none := by
  obtain ⟨d, ds, hds, hd, -⟩ := Number.digitsOf_eq_cons n
  rw [hds, List.cons_append]
  unfold readWord
  split
  · rename_i heq
    rw [(List.cons.inj heq).1] at hd
    exact absurd hd (by decide)
  · rename_i heq
    rw [(List.cons.inj heq).1] at hd
    exact absurd hd (by decide)
  · rfl

/-- **An integer is read behind its sign.** -/
theorem readSigned_digitsOf (n : Int64) {c : Char} (hc : isStop c = true) (rest : List Char) :
    readSigned (Number.signOf n.toInt) (Number.digitsOf n.toInt ++ c :: rest)
      = some (.integer n, c :: rest) := by
  have hmark : isFloatMark (c :: rest) = false := by
    rcases isStop_iff.1 hc with rfl | rfl | rfl <;> rfl
  have hdecimal : decimal? (Number.signOf n.toInt) (Number.digitsOf n.toInt)
      = some (.integer n) := by
    rw [decimal?, Number.readInt64_toString]
  rw [readSigned, readWord_digitsOf, readDecimal, readWhole_digitsOf n.toInt hc rest]
  simp only [Option.bind_eq_bind, Option.bind_some, hmark, Bool.false_eq_true, if_false, hdecimal]

/-- What starts with a digit has no sign, and no mark of another base unless the digit is zero. -/
theorem read_cons {d : Char} (hd : d.isDigit = true) {cs : List Char}
    (hmark : d = '0' → ∃ c more, cs = c :: more ∧ isStop c = true) :
    read (d :: cs) = readSigned [] (d :: cs) := by
  have hsign : readSign (d :: cs) = ([], d :: cs) := by
    rw [readSign, if_neg]
    rintro (rfl | rfl) <;> exact absurd hd (by decide)
  have hbase : ∀ {e : Char} {more : List Char}, isStop e = false → d :: cs ≠ '0' :: e :: more := by
    rintro e more he heq
    obtain ⟨rfl, rfl⟩ := List.cons.inj heq
    obtain ⟨c, rest, hcs, hc⟩ := hmark rfl
    rw [(List.cons.inj hcs).1, hc] at he
    exact absurd he (by decide)
  unfold read
  split
  · rename_i heq
    exact absurd heq (hbase rfl)
  · rename_i heq
    exact absurd heq (hbase rfl)
  · rename_i heq
    exact absurd heq (hbase rfl)
  · rw [hsign]

/-- **A number is read as the integer that was written.** -/
theorem read_toString (n : Int64) {c : Char} (hc : isStop c = true) (rest : List Char) :
    read ((toString n.toInt).toList ++ c :: rest) = some (.integer n, c :: rest) := by
  have hsigned := readSigned_digitsOf n hc rest
  rw [Number.toList_toString, List.append_assoc]
  rw [Number.signOf] at hsigned ⊢
  split at hsigned
  · rename_i hsign
    obtain ⟨d, ds, hds, hd, hzero⟩ := Number.digitsOf_eq_cons n.toInt
    rw [if_pos hsign, hds, List.nil_append, List.cons_append]
    rw [hds, List.cons_append] at hsigned
    rw [read_cons hd]
    · exact hsigned
    · -- Only a zero could be taken for the start of a mark, and then nothing else was written.
      intro h0
      exact ⟨c, rest, by rw [hzero h0, List.nil_append], hc⟩
  · rename_i hsign
    rw [if_neg hsign]
    exact hsigned

end Numeral

/-! ## Scalars

The first character says which of the readers gets the value. -/

/-- A string is written between quotes. -/
theorem Quoted.write_eq_cons (s : String) :
    ∃ quote cs, Quoted.write s = quote :: cs ∧ (quote = '"' ∨ quote = '\'') := by
  rw [Quoted.write]
  cases Quoted.Form.of s.toList with
  | basic => exact ⟨_, _, rfl, .inl rfl⟩
  | literal => exact ⟨_, _, rfl, .inr rfl⟩
  | basicBlock => exact ⟨_, _, rfl, .inl rfl⟩
  | literalBlock => exact ⟨_, _, rfl, .inr rfl⟩

theorem head?_ne_of_isStop {c : Char} (h : isStop c = true) (rest : List Char) :
    (c :: rest).head? ≠ some '"' ∧ (c :: rest).head? ≠ some '\'' := by
  rcases isStop_iff.1 h with rfl | rfl | rfl <;> simp

/-- **A string is read as it was written.** -/
theorem readScalar_string (s : String) {c : Char} (hc : isStop c = true) (rest : List Char) :
    readScalar (Quoted.write s ++ c :: rest) = some (.string s, c :: rest) := by
  have hne := head?_ne_of_isStop hc rest
  have hread := Quoted.read_write s hne.1 hne.2
  obtain ⟨quote, cs, hwrite, hquote⟩ := Quoted.write_eq_cons s
  rw [hwrite, List.cons_append] at hread ⊢
  rw [readScalar, if_pos hquote, hread]
  rfl

/-- Whether a written integer can start with a character. -/
def Numeral.isOpening (c : Char) : Bool :=
  c.isDigit || c = '-'

theorem toList_toString_eq_cons (n : Int) :
    ∃ d ds, (toString n).toList = d :: ds ∧ Numeral.isOpening d = true := by
  rw [Number.toList_toString, Number.signOf]
  split
  · obtain ⟨d, ds, hds, hd, -⟩ := Number.digitsOf_eq_cons n
    exact ⟨d, ds, hds, by rw [Numeral.isOpening, hd]; rfl⟩
  · exact ⟨_, _, rfl, rfl⟩

/-- **A written integer is not mistaken for a date-time.** -/
theorem Datetime.read_toString (n : Int) {c : Char} (hc : isStop c = true) (rest : List Char) :
    Datetime.read ((toString n).toList ++ c :: rest) = none := by
  have hhyphen : c ≠ '-' := ne_of_apply_ne isStop (by rw [hc]; decide)
  have hcolon : c ≠ ':' := ne_of_apply_ne isStop (by rw [hc]; decide)
  rw [Number.toList_toString, Number.signOf]
  split
  · exact Datetime.read_eq_none (fun d => Number.isDigit_of_mem_digitsOf)
      (not_isDigit_of_isStop hc) hhyphen hcolon rest
  · exact Datetime.read_minus _

/-- **An integer is read as it was written.** -/
theorem readScalar_integer (n : Int64) {c : Char} (hc : isStop c = true) (rest : List Char) :
    readScalar ((toString n.toInt).toList ++ c :: rest) = some (.integer n, c :: rest) := by
  have hfigure : readFigure ((toString n.toInt).toList ++ c :: rest)
      = some (.integer n, c :: rest) := by
    rw [readFigure, Datetime.read_toString n.toInt hc rest, Numeral.read_toString n hc rest]
  obtain ⟨d, ds, hds, hd⟩ := toList_toString_eq_cons n.toInt
  have hquotes : ¬ (d = '"' ∨ d = '\'') := by
    rintro (rfl | rfl) <;> exact absurd hd (by decide)
  have ht : d ≠ 't' := ne_of_apply_ne Numeral.isOpening (by rw [hd]; decide)
  have hf : d ≠ 'f' := ne_of_apply_ne Numeral.isOpening (by rw [hd]; decide)
  rw [hds, List.cons_append] at hfigure ⊢
  rw [readScalar, if_neg hquotes, if_neg ht, if_neg hf, hfigure]

/-- **A truth value is read as it was written.** -/
theorem readScalar_boolean (b : Bool) (rest : List Char) :
    readScalar ((if b then "true" else "false").toList ++ rest) = some (.boolean b, rest) := by
  cases b <;> rfl

end TunnelOptions.Toml

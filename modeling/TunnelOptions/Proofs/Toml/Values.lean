import TunnelOptions.Proofs.Toml.Scalars

/-!
# Values read back

Of the values that a table of options may hold, each is read as it was written. An array of more
than one string is the only one that takes more than a line.

The reader of values calls itself for the items of an array, and stops where they are nested too
deeply. Nothing of that matters here: an item of an option is a string, and strings are read in the
same way at every depth. So arrays are treated for any reader of items that reads strings back
(`ReadsStrings`), and the depth comes in only when the reader of values is shown to be one.

* `Value.Plain`: strings, integers, truth values and arrays of strings.
* `readItems_close`, `readItems_last`, `readItems_comma`: what the reader does with the end of an
  array, with the last item, and with one that others follow.
* `readItems_lines`: an array with a line for each item.
* `readItems_writeArray`: an array in any of its layouts, which are three by the number of items.
* `readValue_write`: a plain value is read as it was written.
-/

set_option autoImplicit false

namespace TunnelOptions.Toml

/-- The values that can be option values: scalars, and arrays of strings. Floats and date-times are
scalars of the language, but no option has such a value. -/
inductive Value.Plain : Value → Prop where
  | string (s : String) : Plain (.string s)
  | integer (n : Int64) : Plain (.integer n)
  | boolean (b : Bool) : Plain (.boolean b)
  | strings (items : List String) : Plain (.array (items.map .string))

/-! ## Gaps

Between items there may be blanks, line breaks and comments. A written array has blanks and line
breaks there, and never a comment. -/

/-- A gap is over where something else than a blank, a line break or a comment comes. -/
theorem skipGap_cons {c : Char} (hfeed : c ≠ '\n') (hreturn : c ≠ '\r') (hblank : isBlank c = false)
    (hmark : c ≠ '#') (cs : List Char) : skipGap false (c :: cs) = some (c :: cs) := by
  have hline : isReturnBefore c cs = false := by simp [isReturnBefore, hreturn]
  simp only [skipGap, hfeed, if_false, hline, Bool.false_eq_true, hblank, hmark]

theorem skipGap_write (s : String) (cs : List Char) :
    skipGap false (Quoted.write s ++ cs) = some (Quoted.write s ++ cs) := by
  obtain ⟨quote, more, hwrite, hquote⟩ := Quoted.write_eq_cons s
  rw [hwrite, List.cons_append]
  rcases hquote with rfl | rfl
  · exact skipGap_cons (by decide) (by decide) rfl (by decide) _
  · exact skipGap_cons (by decide) (by decide) rfl (by decide) _

/-! ## Arrays

An item starts with a quote, so it is neither passed over as part of a gap nor taken for the end of
the array. This is all that the reader of arrays needs to know of its items. -/

/-- Whether strings are read as they were written, whatever stands behind them. -/
def ReadsStrings (item : List Char → Option (Value × List Char)) : Prop :=
  ∀ (s : String) (c : Char) (rest : List Char), isStop c = true →
    item (Quoted.write s ++ c :: rest) = some (.string s, c :: rest)

section

variable {item : List Char → Option (Value × List Char)} {fuel : Nat} {s : String}
variable {cs rest : List Char}

/-- The end of an array. -/
theorem readItems_close (hgap : skipGap false cs = some (']' :: rest)) :
    readItems item (fuel + 1) cs = some ([], rest) := by
  simp only [readItems, hgap, Option.bind_eq_bind, Option.bind_some]

/-- An item with the end of the array behind it. -/
theorem readItems_last (hitem : ReadsStrings item)
    (hgap : skipGap false cs = some (Quoted.write s ++ ']' :: rest)) :
    readItems item (fuel + 1) cs = some ([.string s], rest) := by
  have hread := hitem s ']' rest rfl
  have hend : skipGap false (']' :: rest) = some (']' :: rest) :=
    skipGap_cons (by decide) (by decide) rfl (by decide) rest
  obtain ⟨quote, more, hwrite, hquote⟩ := Quoted.write_eq_cons s
  rw [hwrite, List.cons_append] at hgap hread
  rcases hquote with rfl | rfl
  · simp [readItems, hgap, hread, hend]
  · simp [readItems, hgap, hread, hend]

/-- An item with a comma behind it. -/
theorem readItems_comma (hitem : ReadsStrings item) {values : List Value} {after : List Char}
    (hgap : skipGap false cs = some (Quoted.write s ++ ',' :: after))
    (hmore : readItems item fuel after = some (values, rest)) :
    readItems item (fuel + 1) cs = some (.string s :: values, rest) := by
  have hread := hitem s ',' after rfl
  have hend : skipGap false (',' :: after) = some (',' :: after) :=
    skipGap_cons (by decide) (by decide) rfl (by decide) after
  obtain ⟨quote, more, hwrite, hquote⟩ := Quoted.write_eq_cons s
  rw [hwrite, List.cons_append] at hgap hread
  rcases hquote with rfl | rfl
  · simp [readItems, hgap, hread, hend, hmore]
  · simp [readItems, hgap, hread, hend, hmore]

end

/-- An item on a line of its own. -/
def itemLine (cs : List Char) : List Char :=
  "    ".toList ++ cs ++ ",\n".toList

theorem itemLine_append (cs rest : List Char) :
    itemLine cs ++ rest = ' ' :: ' ' :: ' ' :: ' ' :: (cs ++ ',' :: '\n' :: rest) := by
  simp [itemLine]

/-- **An array with a line for each item is read as its items.** What is left to read starts with
the line break behind the bracket or the last comma. -/
theorem readItems_lines {item : List Char → Option (Value × List Char)} (hitem : ReadsStrings item)
    (items : List String) (rest : List Char) {fuel : Nat} (hfuel : items.length < fuel) :
    readItems item fuel
        ('\n' :: ((items.map Quoted.write).flatMap itemLine ++ ']' :: rest))
      = some (items.map .string, rest) := by
  induction items generalizing fuel with
  | nil =>
    obtain ⟨fuel, rfl⟩ := Nat.exists_eq_add_one_of_ne_zero (Nat.ne_of_gt hfuel)
    exact readItems_close rfl
  | cons s items ih =>
    obtain ⟨fuel, rfl⟩ := Nat.exists_eq_add_one_of_ne_zero (Nat.ne_of_gt (Nat.zero_lt_of_lt hfuel))
    refine readItems_comma hitem ?_ (ih (Nat.lt_of_succ_lt_succ hfuel))
    rw [List.map_cons, List.flatMap_cons, List.append_assoc, itemLine_append]
    exact skipGap_write s _

theorem length_le_lines (items : List (List Char)) :
    items.length ≤ (items.flatMap itemLine).length := by
  induction items with
  | nil => exact Nat.le_refl 0
  | cons cs items ih =>
    rw [List.flatMap_cons, itemLine_append]
    simp only [List.length_cons, List.length_append]
    omega

/-- More than one item: each has a line. -/
theorem writeArray_lines (a b : List Char) (items : List (List Char)) :
    writeArray (a :: b :: items)
      = '[' :: '\n' :: ((a :: b :: items).flatMap itemLine ++ [']']) := rfl

/-- **An array of strings is read as it was written.** -/
theorem readItems_writeArray {item : List Char → Option (Value × List Char)}
    (hitem : ReadsStrings item) (items : List String) (rest : List Char) :
    ∃ cs, writeArray (items.map Quoted.write) ++ rest = '[' :: cs
      ∧ readItems item cs.length cs = some (items.map .string, rest) := by
  match items with
  | [] => exact ⟨']' :: rest, rfl, readItems_close rfl⟩
  | [s] =>
    refine ⟨Quoted.write s ++ ']' :: rest, ?_, ?_⟩
    · simp [writeArray]
    · rw [List.length_append, List.length_cons, ← Nat.add_assoc]
      exact readItems_last hitem (skipGap_write s _)
  | s :: t :: items =>
    have hlength := length_le_lines ((s :: t :: items).map Quoted.write)
    rw [List.length_map] at hlength
    refine ⟨_, ?_, readItems_lines hitem (s :: t :: items) rest ?_⟩
    · rw [List.map_cons, List.map_cons, writeArray_lines]
      simp only [List.cons_append, List.append_assoc, List.nil_append]
    · simp only [List.length_cons, List.length_append] at hlength ⊢
      omega

/-! ## Values

A value starts with a bracket, a brace, or as a scalar, and of the plain ones none starts with a
brace. -/

/-- What starts with neither a bracket nor a brace is a scalar. -/
theorem readNested_scalar {c : Char} (hbracket : c ≠ '[') (hbrace : c ≠ '\x7b') (room : Nat)
    (cs : List Char) : readNested room (c :: cs) = readScalar (c :: cs) := by
  cases room with
  | zero => rw [readNested, if_neg (by simp [hbracket, hbrace])]
  | succ room => rw [readNested, if_neg hbracket, if_neg hbrace]

theorem readsStrings_readNested (room : Nat) : ReadsStrings (readNested room) := by
  intro s c rest hc
  obtain ⟨quote, cs, hwrite, hquote⟩ := Quoted.write_eq_cons s
  have hscalar := readScalar_string s hc rest
  rw [hwrite, List.cons_append] at hscalar ⊢
  rw [readNested_scalar, hscalar]
  · rcases hquote with rfl | rfl <;> decide
  · rcases hquote with rfl | rfl <;> decide

theorem writeItems_strings (items : List String) :
    writeItems (items.map .string) = items.map Quoted.write := by
  induction items with
  | nil => rfl
  | cons s items ih => rw [List.map_cons, List.map_cons, writeItems, ih, Value.write]

/-- A written value starts with no blank. -/
theorem Value.Plain.write_eq_cons {value : Value} (hvalue : value.Plain) :
    ∃ c cs, value.write = c :: cs ∧ isBlank c = false := by
  cases hvalue with
  | string s =>
    obtain ⟨quote, cs, hwrite, hquote⟩ := Quoted.write_eq_cons s
    refine ⟨quote, cs, by rw [Value.write, hwrite], ?_⟩
    rcases hquote with rfl | rfl <;> rfl
  | integer n =>
    obtain ⟨d, ds, hds, hd⟩ := toList_toString_eq_cons n.toInt
    refine ⟨d, ds, by rw [Value.write, hds], ?_⟩
    have hspace : d ≠ ' ' := ne_of_apply_ne Numeral.isOpening (by rw [hd]; decide)
    have htab : d ≠ '\t' := ne_of_apply_ne Numeral.isOpening (by rw [hd]; decide)
    simp [isBlank, hspace, htab]
  | boolean b => cases b <;> exact ⟨_, _, rfl, rfl⟩
  | strings items =>
    obtain ⟨cs, hcs, -⟩ := readItems_writeArray (readsStrings_readNested 0) items []
    refine ⟨'[', cs, ?_, rfl⟩
    rw [Value.write, writeItems_strings, ← hcs, List.append_nil]

/-- **A plain value is read as it was written.** -/
theorem readValue_write {value : Value} (hvalue : value.Plain) {c : Char} (hc : isStop c = true)
    (rest : List Char) : readValue (value.write ++ c :: rest) = some (value, c :: rest) := by
  rw [readValue]
  cases hvalue with
  | string s =>
    rw [Value.write]
    exact readsStrings_readNested maxNesting s c rest hc
  | integer n =>
    obtain ⟨d, ds, hds, hd⟩ := toList_toString_eq_cons n.toInt
    have hscalar := readScalar_integer n hc rest
    rw [Value.write]
    rw [hds, List.cons_append] at hscalar ⊢
    have hbracket : d ≠ '[' := ne_of_apply_ne Numeral.isOpening (by rw [hd]; decide)
    have hbrace : d ≠ '\x7b' := ne_of_apply_ne Numeral.isOpening (by rw [hd]; decide)
    rw [readNested_scalar hbracket hbrace, hscalar]
  | boolean b =>
    have hscalar := readScalar_boolean b (c :: rest)
    rw [Value.write]
    cases b with
    | true => exact hscalar
    | false => exact hscalar
  | strings items =>
    have hroom : maxNesting = maxNesting - 1 + 1 := rfl
    obtain ⟨cs, hcs, hitems⟩ := readItems_writeArray
      (readsStrings_readNested (maxNesting - 1)) items (c :: rest)
    rw [Value.write, writeItems_strings, hcs, hroom, readNested, if_pos rfl, hitems]
    rfl

end TunnelOptions.Toml

import TunnelOptions.Toml.Key
import TunnelOptions.Toml.Quoted.RoundTrip

/-!
# Keys read back

A key is read as it was written, bare or quoted, and so is a dotted key of no more parts than may be
read.

A bare key has no end of its own: it goes on as long as its characters do. So all that is said here
is said in front of a character that could not be part of a bare key, be it the dot, the blank in
front of the equals sign or the bracket behind a header. A dotted key is then read part by part, and
in front of a part the reader passes over blanks, of which a written key has none.

* `Key.write_cases`: the three ways in which a key is written.
* `Key.isOpening`, `Key.write_eq_cons`: what a written key starts with. This is what keeps a line
  with a pair apart from a header, a comment and an empty line.
* `Key.readPart_write`: one part of a key.
* `Key.readParts_writePath`: a dotted key.
-/

set_option autoImplicit false

namespace TunnelOptions.Toml

theorem skipBlanks_cons {c : Char} (hc : isBlank c = false) (cs : List Char) :
    skipBlanks (c :: cs) = c :: cs := by
  rw [skipBlanks, List.dropWhile_cons_of_neg (by simp [hc])]

namespace Key

/-! ## One part

A quoted part is that of a string on one line, and has been read back there. -/

/-- How a key can be written. -/
theorem write_cases (key : String) :
    (key.toList ≠ [] ∧ (∀ c ∈ key.toList, isBare c = true) ∧ write key = key.toList)
      ∨ write key = Quoted.Form.basic.write key.toList
      ∨ (Quoted.Form.literal.fits key.toList = true
        ∧ write key = Quoted.Form.literal.write key.toList) := by
  simp only [write]
  split
  · rename_i hbare
    exact .inl ⟨hbare.1, List.all_eq_true.1 hbare.2, rfl⟩
  · split
    · exact .inr (.inl rfl)
    · split
      · rename_i hfits
        exact .inr (.inr ⟨hfits, rfl⟩)
      · exact .inr (.inl rfl)

/-- Whether a written key can start with a character. -/
def isOpening (c : Char) : Bool :=
  isBare c || c = '"' || c = '\''

theorem write_eq_cons (key : String) : ∃ c cs, write key = c :: cs ∧ isOpening c = true := by
  rcases write_cases key with ⟨hne, hbare, hwrite⟩ | hwrite | ⟨-, hwrite⟩
  · obtain ⟨c, cs, hcs⟩ := List.exists_cons_of_ne_nil hne
    have hc : isBare c = true := hbare c (by rw [hcs]; exact List.mem_cons_self)
    exact ⟨c, cs, hwrite.trans hcs, by rw [isOpening, hc]; rfl⟩
  · exact ⟨_, _, hwrite, rfl⟩
  · exact ⟨_, _, hwrite, rfl⟩

theorem isBlank_of_isOpening {c : Char} (h : isOpening c = true) : isBlank c = false := by
  have hspace : c ≠ ' ' := ne_of_apply_ne isOpening (by rw [h]; decide)
  have htab : c ≠ '\t' := ne_of_apply_ne isOpening (by rw [h]; decide)
  simp [isBlank, hspace, htab]

theorem skipBlanks_write (key : String) (rest : List Char) :
    skipBlanks (write key ++ rest) = write key ++ rest := by
  obtain ⟨c, cs, hwrite, hc⟩ := write_eq_cons key
  rw [hwrite, List.cons_append, skipBlanks_cons (isBlank_of_isOpening hc)]

/-- What is quoted is read as a quoted part. -/
theorem readPart_quoted {quote : Char} (hquote : isBare quote = false) (cs : List Char) :
    readPart (quote :: cs) = Quoted.readOneLine (quote :: cs) := by
  rw [readPart, List.takeWhile_cons_of_neg (by simp [hquote])]

theorem readPart_basic (s : String) (rest : List Char) :
    readPart (Quoted.Form.basic.write s.toList ++ rest) = some (s, rest) := by
  have hread := Quoted.readBasic_flatMap_escape s.toList rest
  simp only [Quoted.Form.write, List.cons_append, List.append_assoc, List.nil_append]
  rw [readPart_quoted rfl, Quoted.readOneLine, hread, Option.map_some, Quoted.ofChars,
    String.ofList_toList]

theorem readPart_literal {s : String} (hfits : Quoted.Form.literal.fits s.toList = true)
    (rest : List Char) :
    readPart (Quoted.Form.literal.write s.toList ++ rest) = some (s, rest) := by
  have hread := Quoted.readLiteral_append hfits rest
  simp only [Quoted.Form.write, List.cons_append, List.append_assoc, List.nil_append]
  rw [readPart_quoted rfl, Quoted.readOneLine, hread, Option.map_some, Quoted.ofChars,
    String.ofList_toList]

/-- **A part of a key is read as it was written.** What stands behind it must not be taken for more
of a bare key. -/
theorem readPart_write (key : String) {c : Char} (hc : isBare c = false) (rest : List Char) :
    readPart (write key ++ c :: rest) = some (key, c :: rest) := by
  rcases write_cases key with ⟨hne, hbare, hwrite⟩ | hwrite | ⟨hfits, hwrite⟩
  · have htake : (key.toList ++ c :: rest).takeWhile isBare = key.toList := by
      rw [List.takeWhile_append_of_pos hbare, List.takeWhile_cons_of_neg (by simp [hc]),
        List.append_nil]
    have hdrop : (key.toList ++ c :: rest).dropWhile isBare = c :: rest := by
      rw [List.dropWhile_append_of_pos hbare, List.dropWhile_cons_of_neg (by simp [hc])]
    rw [hwrite, readPart, htake, hdrop]
    split
    · rename_i hnil
      exact absurd hnil hne
    · rw [String.ofList_toList]
  · rw [hwrite, readPart_basic]
  · rw [hwrite, readPart_literal hfits]

/-! ## Dotted keys

The fuel of the reader is the number of parts that a key may have. With that many or fewer it does
not run out before the end. -/

/-- **A dotted key is read as it was written.** What stands behind it must not be taken for more of
it; blanks there are passed over. -/
theorem readParts_writePath {path : List String} (hpath : path ≠ []) {fuel : Nat}
    (hfuel : path.length ≤ fuel) {c : Char} (hc : isBare c = false) (rest : List Char)
    (hdot : (skipBlanks (c :: rest)).head? ≠ some '.') :
    readParts fuel (writePath path ++ c :: rest) = some (path, skipBlanks (c :: rest)) := by
  induction path generalizing fuel with
  | nil => exact absurd rfl hpath
  | cons key path ih =>
    obtain ⟨fuel, rfl⟩ := Nat.exists_eq_add_one_of_ne_zero
      (Nat.ne_of_gt (Nat.lt_of_lt_of_le (Nat.zero_lt_succ _) hfuel))
    cases path with
    | nil =>
      simp only [writePath, readParts, skipBlanks_write, readPart_write key hc, Option.bind_eq_bind,
        Option.bind_some]
      split
      · rename_i heq
        rw [heq] at hdot
        exact absurd rfl hdot
      · rfl
    | cons next path =>
      have hmore := ih (List.cons_ne_nil next path) (Nat.le_of_succ_le_succ hfuel)
      have hbare : isBare '.' = false := by decide
      have hblanks : ∀ cs, skipBlanks ('.' :: cs) = '.' :: cs := fun cs => rfl
      rw [writePath, List.append_assoc, List.cons_append]
      simp only [readParts, skipBlanks_write, readPart_write key hbare, hblanks, hmore,
        Option.bind_eq_bind, Option.bind_some]
      exact fun h => nomatch h

end Key

end TunnelOptions.Toml

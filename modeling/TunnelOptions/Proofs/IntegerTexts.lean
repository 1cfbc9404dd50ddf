import TunnelOptions.Proofs.Literals
import TunnelOptions.Value.Reading

/-!
# Integers given as text

A text is taken for an integer of 32 bits in two steps: without the white space around it, it has to
be a literal of 64 bits, and the value has to be one of 32. No value is cut down to its width on the
way, so what is taken is the value of the literal, and every other text is refused. Why it is
refused depends on which of the two steps failed: only a value that fits 64 bits is known well
enough to be named.

What is proved says nothing of the reader. It speaks of literals, which are a sign and digits with
an exact value of any size, and of two ranges of integers. The reader comes in by
`Number.readInt64_eq_ok_iff`, which has done with signs, zeros in front and the order of the digits,
so that what is left here are the two steps and which of the faults each of them has.

* `fitInt32_eq_ok_iff`, `fitInt32_of_not_fits`: the second step.
* `readInt32_eq_ok_iff`: the texts that are taken.
* `readInt32_outOfRange`, `exists_readInt32_noInteger`: why the others are refused.
* `Value.asInt32_text_by_literals`: **the texts of 32-bit integers are the literals with such a
  value.**
-/

set_option autoImplicit false

namespace TunnelOptions

open Number

/-! ## Narrowing

An integer of 64 bits keeps its value or is refused; there is no third. -/

/-- Whether an integer is one of 32 bits. -/
def Number.FitsInt32 (v : Int) : Prop :=
  -2147483648 ≤ v ∧ v ≤ 2147483647

theorem Number.fitsInt32_toInt (n : Int32) : FitsInt32 n.toInt := by
  have hlow := n.le_toInt
  have hhigh := n.toInt_lt
  simp only [FitsInt32]
  omega

theorem Number.FitsInt32.toInt_ofInt {v : Int} (h : FitsInt32 v) : (Int32.ofInt v).toInt = v := by
  simp only [FitsInt32] at h
  exact Int32.toInt_ofInt_of_le (by omega) (by omega)

/-- A value keeps its place among the integers, or is refused. -/
theorem fitInt32_eq_ok_iff {n : Int64} {m : Int32} : fitInt32 n = .ok m ↔ n.toInt = m.toInt := by
  have hlow := m.le_toInt
  have hhigh := m.toInt_lt
  rw [fitInt32, narrow]
  by_cases hn : -0x80000000 ≤ n.toInt ∧ n.toInt < 0x80000000
  · have htoInt : (Int32.ofInt n.toInt).toInt = n.toInt :=
      Int32.toInt_ofInt_of_le (by omega) (by omega)
    rw [if_pos hn]
    simp only [Except.ok.injEq, ← Int32.toInt_inj, htoInt]
  · rw [if_neg hn]
    simp only [reduceCtorEq, false_iff]
    omega

theorem fitInt32_of_not_fits {n : Int64} (h : ¬ FitsInt32 n.toInt) :
    fitInt32 n = .error (.outOfRange n) := by
  simp only [FitsInt32] at h
  rw [fitInt32, narrow, if_neg (by omega)]

/-! ## Reading texts

The text that is read is the one without white space around it, and the text that a fault names is
the one that was given. -/

theorem readInt32_of_readInt64 {text : String} {n : Int64}
    (h : readInt64 (Text.trim text.toList) = .ok n) : readInt32 text = fitInt32 n := by
  rw [readInt32, h]

theorem readInt32_of_readInt64_error {text : String} {fault : LiteralFault}
    (h : readInt64 (Text.trim text.toList) = .error fault) :
    readInt32 text = .error (.noInteger text fault) := by
  rw [readInt32, h]

/-- **A text is taken for the value of the literal** that it is without the white space around
it. -/
theorem readInt32_eq_ok_iff {text : String} {n : Int32} :
    readInt32 text = .ok n
      ↔ ∃ literal : Literal, literal.text = Text.trim text.toList ∧ literal.value = n.toInt := by
  constructor
  · intro h
    cases hwide : readInt64 (Text.trim text.toList) with
    | error fault =>
      rw [readInt32_of_readInt64_error hwide] at h
      cases h
    | ok wide =>
      obtain ⟨literal, htext, hvalue⟩ := readInt64_eq_ok_iff.1 hwide
      rw [readInt32_of_readInt64 hwide, fitInt32_eq_ok_iff] at h
      exact ⟨literal, htext, hvalue.trans h⟩
  · rintro ⟨literal, htext, hvalue⟩
    have hwide : readInt64 (Text.trim text.toList) = .ok (widen n) :=
      readInt64_eq_ok_iff.2 ⟨literal, htext, hvalue.trans (toInt_widen n).symm⟩
    rw [readInt32_of_readInt64 hwide, fitInt32_eq_ok_iff, toInt_widen]

/-- A literal of 64 bits that is none of 32 is refused with its value. -/
theorem readInt32_outOfRange {text : String} {literal : Literal}
    (htext : literal.text = Text.trim text.toList) (hwide : FitsInt64 literal.value)
    (hnarrow : ¬ FitsInt32 literal.value) :
    readInt32 text = .error (.outOfRange (.ofInt literal.value)) := by
  have hvalue := hwide.toInt_ofInt
  have hread : readInt64 (Text.trim text.toList) = .ok (.ofInt literal.value) :=
    readInt64_eq_ok_iff.2 ⟨literal, htext, hvalue.symm⟩
  rw [readInt32_of_readInt64 hread, fitInt32_of_not_fits (by rwa [hvalue])]

/-- A text that is no literal of 64 bits is refused as none. -/
theorem exists_readInt32_noInteger {text : String}
    (h : ∀ n, readInt64 (Text.trim text.toList) ≠ .ok n) :
    ∃ fault, readInt32 text = .error (.noInteger text fault) := by
  cases hread : readInt64 (Text.trim text.toList) with
  | error fault => exact ⟨fault, readInt32_of_readInt64_error hread⟩
  | ok n => exact absurd hread (h n)

namespace Value

/-- **The texts of 32-bit integers are the literals with such a value**, with any white space around
them. A literal whose value does not fit is refused: for its value, which the fault names, if that
is one of 64 bits, and as no integer if it is not; and so is every text that is no literal. -/
theorem asInt32_text_by_literals (key s : String) :
    let read := Reason.about key (text s).asInt32
    let core := Text.trim s.toList
    Text.Trimmed s.toList core
    ∧ (∀ v : Int, (∃ n : Int32, n.toInt = v ∧ read = .ok n)
      ↔ ∃ literal : Literal, literal.text = core ∧ literal.value = v ∧ FitsInt32 v)
    ∧ (∀ literal : Literal, literal.text = core → ¬ FitsInt32 literal.value →
      (FitsInt64 literal.value → ∃ n : Int64, n.toInt = literal.value
        ∧ read = .error (.invalid key (.outOfRange n))
        ∧ (Reason.outOfRange n).message = toString literal.value ++ " is out of range")
      ∧ (¬ FitsInt64 literal.value →
        ∃ fault, read = .error (.invalid key (.noInteger s fault))))
    ∧ ((∀ literal : Literal, literal.text ≠ core) →
      ∃ fault, read = .error (.invalid key (.noInteger s fault))) := by
  have hread : (text s).asInt32 = readInt32 s := rfl
  simp only [hread]
  refine ⟨Text.trimmed_trim _, ?_, ?_, ?_⟩
  · intro v
    constructor
    · rintro ⟨n, rfl, hn⟩
      rw [Reason.about_eq_ok_iff, readInt32_eq_ok_iff] at hn
      obtain ⟨literal, htext, hvalue⟩ := hn
      exact ⟨literal, htext, hvalue, fitsInt32_toInt n⟩
    · rintro ⟨literal, htext, hvalue, hfits⟩
      refine ⟨.ofInt v, hfits.toInt_ofInt, ?_⟩
      rw [Reason.about_eq_ok_iff, readInt32_eq_ok_iff]
      exact ⟨literal, htext, hvalue.trans hfits.toInt_ofInt.symm⟩
  · intro literal htext hnarrow
    refine ⟨fun hwide => ⟨.ofInt literal.value, hwide.toInt_ofInt, ?_, ?_⟩, fun hwide => ?_⟩
    · rw [readInt32_outOfRange htext hwide hnarrow, Reason.about]
    · rw [Reason.message, hwide.toInt_ofInt]
      rfl
    · have hnone (n : Int64) : readInt64 (Text.trim s.toList) ≠ .ok n := by
        intro hread
        rw [← htext, readInt64_text_eq_ok_iff] at hread
        exact hwide (hread ▸ fitsInt64_toInt n)
      obtain ⟨fault, hfault⟩ := exists_readInt32_noInteger hnone
      exact ⟨fault, by rw [hfault, Reason.about]⟩
  · intro hliteral
    have hnone (n : Int64) : readInt64 (Text.trim s.toList) ≠ .ok n := by
      intro hread
      obtain ⟨literal, htext, -⟩ := readInt64_eq_ok_iff.1 hread
      exact hliteral literal htext
    obtain ⟨fault, hfault⟩ := exists_readInt32_noInteger hnone
    exact ⟨fault, by rw [hfault, Reason.about]⟩

/-- The least integer of 32 bits, with zeros in front. -/
def leastPadded : Literal :=
  ⟨.minus, "0002147483648".toList, by simp, List.all_eq_true.1 rfl⟩

/-- One more than the greatest integer of 32 bits. -/
def beyond32 : Literal :=
  ⟨.plus, "2147483648".toList, by simp, List.all_eq_true.1 rfl⟩

/-- One more than the greatest integer of 64 bits. -/
def beyond64 : Literal :=
  ⟨.absent, "9223372036854775808".toList, by simp, List.all_eq_true.1 rfl⟩

/-- The least integer is read through zeros and white space; a value beyond 32 bits is named, and
one beyond 64 bits is not. -/
theorem asInt32_text_by_literals_at_bounds :
    let read (s : String) := Reason.about "soLinger" (text s).asInt32
    (∃ n : Int32, n.toInt = -2147483648 ∧ read " -0002147483648\n" = .ok n)
    ∧ (∃ n : Int64, n.toInt = 2147483648
      ∧ read "+2147483648" = .error (.invalid "soLinger" (.outOfRange n)))
    ∧ ∃ fault, read "9223372036854775808"
      = .error (.invalid "soLinger" (.noInteger "9223372036854775808" fault)) := by
  have hvalue32 : beyond32.value = 2147483648 := rfl
  have hvalue64 : beyond64.value = 9223372036854775808 := rfl
  obtain ⟨-, hread, -⟩ := asInt32_text_by_literals "soLinger" " -0002147483648\n"
  obtain ⟨-, -, hrefused32, -⟩ := asInt32_text_by_literals "soLinger" "+2147483648"
  obtain ⟨-, -, hrefused64, -⟩ := asInt32_text_by_literals "soLinger" "9223372036854775808"
  refine ⟨(hread _).2 ⟨leastPadded, rfl, rfl, by simp [FitsInt32]⟩, ?_, ?_⟩
  · obtain ⟨n, hn, hfault, -⟩ := (hrefused32 beyond32 rfl (by simp [hvalue32, FitsInt32])).1
      (by simp [hvalue32, FitsInt64, leastInt64, greatestInt64])
    exact ⟨n, hn, hfault⟩
  · exact (hrefused64 beyond64 rfl (by simp [hvalue64, FitsInt32])).2
      (by simp [hvalue64, FitsInt64, leastInt64, greatestInt64])

end Value

end TunnelOptions

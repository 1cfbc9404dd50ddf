import TunnelOptions.OptionFault
import TunnelOptions.Proofs.Decimal

/-!
# Integer literals

A literal is an optional sign and one or more digits, and its value is an exact integer, whatever
its length. The reader keeps within 64 bits and goes from left to right, so it has to be shown that
it accepts a literal exactly when the value of the whole fits, that the sign and zeros in front make
no difference, and that it accepts nothing else.

The reader gives up at the first value that leaves the range, and the statement is about the last
one. What connects them is that each digit takes the value further from zero, or leaves it there: if
a value on the way is out of range, so is every later one. `readDigits_eq_ok_iff` carries this
through the digits, for both signs at once, because a digit weighs one or minus one and the sign is
only the weight. It starts from any value, as the induction needs.

A literal is a structure with its well-formedness in it. So a statement about all literals is about
all texts of that form, and what can be done to a literal without changing its value, which is to
put zeros or a plus in front, is a function between literals.

* `Number.Literal`: a literal, with its `text` and `value`.
* `Number.Literal.pad`, `Number.Literal.signed`: zeros in front of the digits, and a plus in front
  of a literal without a sign.
* `Number.readDigits_eq_ok_iff`, `Number.readLiteral_text_eq_ok_iff`: what the reader accepts.
* `Number.readInt64_eq_ok_iff`: **the texts of 64-bit integers are the literals with such a value.**
-/

set_option autoImplicit false

namespace TunnelOptions.Number

/-- Whether an integer is one of 64 bits. -/
def FitsInt64 (v : Int) : Prop :=
  leastInt64 ≤ v ∧ v ≤ greatestInt64

theorem fitsInt64_toInt (n : Int64) : FitsInt64 n.toInt := by
  have hlow := n.le_toInt
  have hhigh := n.toInt_lt
  simp only [FitsInt64, leastInt64, greatestInt64]
  omega

theorem FitsInt64.toInt_ofInt {v : Int} (h : FitsInt64 v) : (Int64.ofInt v).toInt = v := by
  simp only [FitsInt64, leastInt64, greatestInt64] at h
  exact Int64.toInt_ofInt_of_le (by omega) (by omega)

/-! ## Literals

No sign and a plus have the same value and are written differently, so they are two signs. -/

/-- What stands in front of the digits. -/
inductive Sign where
  | absent
  | plus
  | minus
  deriving DecidableEq, Repr

namespace Sign

/-- How a sign is written. -/
def mark : Sign → List Char
  | absent => []
  | plus => ['+']
  | minus => ['-']

/-- What each digit counts. -/
def weight : Sign → Int
  | absent | plus => 1
  | minus => -1

theorem weight_eq (sign : Sign) : sign.weight = 1 ∨ sign.weight = -1 := by
  cases sign <;> simp [weight]

end Sign

/-- An integer in decimal, by its parts: a sign or none, and digits, of which there is one at least.
Every such literal has a value, however large. -/
structure Literal where
  sign : Sign
  digits : List Char
  digits_ne_nil : digits ≠ []
  isDigit : ∀ c ∈ digits, c.isDigit = true

namespace Literal

/-- How a literal is written. -/
def text (literal : Literal) : List Char :=
  literal.sign.mark ++ literal.digits

/-- The exact value. -/
def value (literal : Literal) : Int :=
  literal.sign.weight * (Nat.ofDigitChars 10 literal.digits 0 : Nat)

/-- The literal with zeros in front of its digits. -/
def pad (literal : Literal) (zeros : Nat) : Literal where
  sign := literal.sign
  digits := List.replicate zeros '0' ++ literal.digits
  digits_ne_nil := by simp [literal.digits_ne_nil]
  isDigit := by
    intro c hc
    rcases List.mem_append.1 hc with hzero | hdigit
    · obtain rfl := (List.mem_replicate.1 hzero).2
      decide
    · exact literal.isDigit c hdigit

theorem value_pad (literal : Literal) (zeros : Nat) :
    (literal.pad zeros).value = literal.value := by
  have hzeros : Nat.ofDigitChars 10 (List.replicate zeros '0') 0 = 0 := by
    induction zeros with
    | zero => rfl
    | succ zeros ih => simp [List.replicate_succ, Nat.ofDigitChars_cons, ih]
  simp [value, pad, Nat.ofDigitChars_append, hzeros]

/-- The literal with a plus for its sign. -/
def signed (literal : Literal) : Literal :=
  { literal with sign := .plus }

theorem value_signed {literal : Literal} (h : literal.sign = .absent) :
    literal.signed.value = literal.value := by
  simp [value, signed, h, Sign.weight]

theorem text_ne_nil (literal : Literal) : literal.text ≠ [] := by
  simp [text, literal.digits_ne_nil]

/-- A literal has no letters: all its characters come before them. -/
theorem toNat_lt_of_mem_text {literal : Literal} {c : Char} (h : c ∈ literal.text) :
    c.toNat < 65 := by
  rcases List.mem_append.1 h with hmark | hdigit
  · cases hsign : literal.sign <;> simp [hsign, Sign.mark] at hmark <;> simp [hmark]
  · have hrange := Char.isDigit_iff_toNat.1 (literal.isDigit c hdigit)
    simp only [Char.reduceToNat] at hrange
    omega

end Literal

/-! ## Reading

From the digits to the literal there is only the sign to look at. -/

/-- **Digits are read exactly while they fit.** From a value within 64 bits on, the reader accepts
digits whose value stays there, and nothing but digits. -/
theorem readDigits_eq_ok_iff {sign : Int} (hsign : sign = 1 ∨ sign = -1) {cs : List Char} {n : Nat}
    (hn : FitsInt64 (sign * n)) {v : Int} :
    readDigits sign (sign * n) cs = .ok v
      ↔ (∀ c ∈ cs, c.isDigit = true) ∧ sign * (Nat.ofDigitChars 10 cs n : Nat) = v
        ∧ FitsInt64 v := by
  constructor
  · intro h
    induction cs generalizing n with
    | nil =>
      obtain rfl := Except.ok.inj h
      exact ⟨by simp, rfl, hn⟩
    | cons c cs ih =>
      by_cases hc : c.isDigit = true
      · rw [readDigits_cons hsign hc] at h
        dsimp only at h
        split at h
        · cases h
        · split at h
          · cases h
          · rename_i hhigh hlow
            -- The two bounds that have been checked are those of the next value.
            have hnext : FitsInt64 (sign * ((10 * n + (c.toNat - '0'.toNat) : Nat) : Int)) :=
              ⟨Int.not_lt.1 hlow, Int.not_lt.1 hhigh⟩
            obtain ⟨hcs, hv, hfits⟩ := ih hnext h
            exact ⟨List.forall_mem_cons.2 ⟨hc, hcs⟩, hv, hfits⟩
      · rw [readDigits, if_neg hc] at h
        cases h
  · rintro ⟨hcs, rfl, hlow, hhigh⟩
    exact readDigits_of_isDigit hsign hcs n hlow hhigh

theorem readLiteral_text (literal : Literal) :
    readLiteral literal.text = readDigits literal.sign.weight 0 literal.digits := by
  obtain ⟨sign, digits, hne, hdigits⟩ := literal
  obtain ⟨d, ds, rfl⟩ := List.exists_cons_of_ne_nil hne
  cases sign with
  | absent => exact readLiteral_of_isDigit (hdigits d List.mem_cons_self) ds
  | plus => rfl
  | minus => rfl

/-- A literal is read as its value when that is within 64 bits. -/
theorem readLiteral_text_eq_ok_iff {literal : Literal} {v : Int} :
    readLiteral literal.text = .ok v ↔ literal.value = v ∧ FitsInt64 v := by
  have hzero : FitsInt64 (literal.sign.weight * (0 : Nat)) := by
    simp [FitsInt64, leastInt64, greatestInt64]
  have hread := @readDigits_eq_ok_iff _ literal.sign.weight_eq literal.digits 0 hzero v
  rw [Int.natCast_zero, Int.mul_zero] at hread
  rw [readLiteral_text, hread]
  exact and_iff_right literal.isDigit

/-- Nothing but literals is read. -/
theorem exists_text_of_readLiteral {cs : List Char} {v : Int} (h : readLiteral cs = .ok v) :
    ∃ literal : Literal, literal.text = cs := by
  have hdigits {sign : Int} (hsign : sign = 1 ∨ sign = -1) {ds : List Char}
      (hread : readDigits sign 0 ds = .ok v) : ∀ c ∈ ds, c.isDigit = true := by
    have hzero : FitsInt64 (sign * (0 : Nat)) := by simp [FitsInt64, leastInt64, greatestInt64]
    rw [← Int.mul_zero sign] at hread
    exact ((readDigits_eq_ok_iff hsign hzero).1 hread).1
  unfold readLiteral at h
  split at h
  · cases h
  · rename_i ds
    cases ds with
    | nil => cases h
    | cons d ds => exact ⟨⟨.plus, d :: ds, by simp, hdigits (.inl rfl) h⟩, rfl⟩
  · rename_i ds
    cases ds with
    | nil => cases h
    | cons d ds => exact ⟨⟨.minus, d :: ds, by simp, hdigits (.inr rfl) h⟩, rfl⟩
  · rename_i hne _ _
    exact ⟨⟨.absent, cs, hne, hdigits (.inl rfl) h⟩, rfl⟩

theorem readInt64_text_eq_ok_iff {literal : Literal} {n : Int64} :
    readInt64 literal.text = .ok n ↔ literal.value = n.toInt := by
  constructor
  · intro h
    obtain ⟨v, hv, rfl⟩ := exists_of_map_eq_ok h
    obtain ⟨hvalue, hfits⟩ := readLiteral_text_eq_ok_iff.1 hv
    rw [hfits.toInt_ofInt, hvalue]
  · intro hvalue
    have hread := readLiteral_text_eq_ok_iff.2 ⟨hvalue, fitsInt64_toInt n⟩
    rw [readInt64, hread, Except.map, Int64.ofInt_toInt]

/-- What is written in one way has one value. -/
theorem Literal.value_eq_of_text_eq {literal other : Literal} (h : literal.text = other.text)
    (hfits : FitsInt64 literal.value) : literal.value = other.value := by
  have hread := readInt64_text_eq_ok_iff.2 hfits.toInt_ofInt.symm
  rw [h, readInt64_text_eq_ok_iff, hfits.toInt_ofInt] at hread
  exact hread.symm

/-- **The texts of 64-bit integers are the literals with such a value.** -/
theorem readInt64_eq_ok_iff {cs : List Char} {n : Int64} :
    readInt64 cs = .ok n ↔ ∃ literal : Literal, literal.text = cs ∧ literal.value = n.toInt := by
  constructor
  · intro h
    obtain ⟨v, hv, -⟩ := exists_of_map_eq_ok h
    obtain ⟨literal, rfl⟩ := exists_text_of_readLiteral hv
    exact ⟨literal, rfl, readInt64_text_eq_ok_iff.1 h⟩
  · rintro ⟨literal, rfl, hvalue⟩
    exact readInt64_text_eq_ok_iff.2 hvalue

end TunnelOptions.Number

import TunnelOptions.Number.Literal

/-!
# Integers read back

A 64-bit integer that has been written out in decimal is read as itself. This is what a value given
as text in place of a number comes down to, and what a settings file that has been saved and loaded
comes down to.

How an integer is written is taken apart first, into a sign and digits that the library's own
functions give. Reading goes along the digits with the value so far, and the induction has to know
of every value on the way that it is in range; it is no further from zero than the last one, and
that one is in range by assumption.

Written numbers also tell the number, in every base up to sixteen. Numbers stand in the texts that
are shown to a reader, in decimal and as the numbers of characters in hexadecimal, and there it is
needed that two of them are not written alike.

* `Number.toDigits_injective`: digits, in every base up to sixteen, tell the number.
* `Number.toList_toString`, `Number.toString_injective`: how an integer is written, a sign and
  digits.
* `Number.readDigits_cons`, `Number.readDigits_of_isDigit`: digits are read as their value while it
  stays within 64 bits.
* `Number.readInt64_toString`: an integer is read as it was written.
-/

set_option autoImplicit false

namespace TunnelOptions.Number

/-! ## Digits

Digits are taken from the end, and the last one is the remainder. -/

theorem digitChar_inj {m n : Nat} (hm : m < 16) (hn : n < 16)
    (h : Nat.digitChar m = Nat.digitChar n) : m = n := by
  have hall : ∀ m < 16, ∀ n < 16, Nat.digitChar m = Nat.digitChar n → m = n := by decide
  exact hall m hm n hn h

/-- A number is told by its digits, in every base up to sixteen. -/
theorem toDigits_injective {b : Nat} (hb : 1 < b) (hb' : b ≤ 16) :
    Function.Injective (Nat.toDigits b) := by
  intro m
  induction m using Nat.strongRecOn with
  | ind m ih =>
    intro n h
    rw [@Nat.toDigits_eq_if b m hb, @Nat.toDigits_eq_if b n hb] at h
    have hlast (k : Nat) : k % b < 16 := Nat.lt_of_lt_of_le (Nat.mod_lt k (by omega)) hb'
    have hlength (k : Nat) (c d : Char) : [c] ≠ Nat.toDigits b k ++ [d] := by
      simp [List.singleton_eq_append_iff, Nat.toDigits_ne_nil]
    by_cases hm : m < b <;> by_cases hn : n < b
    · rw [if_pos hm, if_pos hn] at h
      exact digitChar_inj (by omega) (by omega) (List.cons.inj h).1
    · rw [if_pos hm, if_neg hn] at h
      exact absurd h (hlength _ _ _)
    · rw [if_neg hm, if_pos hn] at h
      exact absurd h.symm (hlength _ _ _)
    · rw [if_neg hm, if_neg hn] at h
      obtain ⟨hfront, hend⟩ := List.append_inj' h rfl
      have hdiv := ih (m / b) (Nat.div_lt_self (by omega) hb) hfront
      have hmod := digitChar_inj (hlast m) (hlast n) (List.cons.inj hend).1
      rw [← Nat.div_add_mod m b, hdiv, hmod, Nat.div_add_mod]

/-! ## Written integers

Only a negative integer has a sign. The digits are those of a natural number, so there is a zero in
front of none but zero. -/

/-- The sign of a written integer: nothing or a minus. -/
def signOf (n : Int) : List Char :=
  if 0 ≤ n then [] else ['-']

/-- The digits of a written integer. -/
def digitsOf (n : Int) : List Char :=
  Nat.toDigits 10 n.natAbs

theorem toList_toString (n : Int) : (toString n).toList = signOf n ++ digitsOf n := by
  rw [Int.toString_eq_repr, Int.repr_eq_if, signOf, digitsOf]
  split
  · rename_i h
    have habs : n.toNat = n.natAbs := by omega
    rw [Nat.toList_repr, habs, List.nil_append]
  · rename_i h
    have habs : (-n).toNat = n.natAbs := by omega
    rw [String.toList_append, Nat.toList_repr, habs]
    rfl

theorem isDigit_of_mem_digitsOf {n : Int} {c : Char} (h : c ∈ digitsOf n) : c.isDigit = true :=
  Nat.isDigit_of_mem_toDigits (by decide) (by decide) h

/-- Different integers are written differently. -/
theorem toString_injective : Function.Injective (toString : Int → String) := by
  intro m n h
  have htext := congrArg String.toList h
  rw [toList_toString, toList_toString] at htext
  have hminus (k : Int) (r : List Char) : digitsOf k ≠ '-' :: r := by
    intro hk
    have hdigit := isDigit_of_mem_digitsOf (hk ▸ List.mem_cons_self)
    simp at hdigit
  have hdigits : digitsOf m = digitsOf n → m.natAbs = n.natAbs :=
    fun h => toDigits_injective (by decide) (by decide) h
  unfold signOf at htext
  split at htext <;> split at htext
  · have habs := hdigits htext
    omega
  · exact absurd htext (hminus m _)
  · exact absurd htext.symm (hminus n _)
  · have habs := hdigits (List.cons.inj htext).2
    omega

/-- Only zero is written with a zero in front. -/
theorem head?_toDigits_ne_zero {n : Nat} (h : 0 < n) : (Nat.toDigits 10 n).head? ≠ some '0' := by
  induction n using Nat.strongRecOn with
  | ind n ih =>
    rw [Nat.toDigits_eq_if (by decide)]
    split
    · rename_i hlt
      rw [List.head?_cons, Ne, Option.some_inj, Nat.digitChar_eq_zero]
      omega
    · rename_i hge
      obtain ⟨d, ds, hds⟩ := List.exists_cons_of_ne_nil (@Nat.toDigits_ne_nil (n / 10) 10)
      have hhead := ih (n / 10) (by omega) (by omega)
      rw [hds] at hhead ⊢
      exact hhead

/-- A written integer has a first digit, and zero only if that is all there is. -/
theorem digitsOf_eq_cons (n : Int) :
    ∃ d ds, digitsOf n = d :: ds ∧ d.isDigit = true ∧ (d = '0' → ds = []) := by
  obtain ⟨d, ds, hds⟩ := List.exists_cons_of_ne_nil (@Nat.toDigits_ne_nil n.natAbs 10)
  have hd : d ∈ digitsOf n := by rw [digitsOf, hds]; exact List.mem_cons_self
  refine ⟨d, ds, hds, isDigit_of_mem_digitsOf hd, ?_⟩
  rintro rfl
  rcases Nat.eq_zero_or_pos n.natAbs with hzero | hpos
  · rw [hzero] at hds
    exact (List.cons.inj hds).2.symm
  · have hhead := head?_toDigits_ne_zero hpos
    rw [hds] at hhead
    exact absurd rfl hhead

/-! ## Reading digits -/

theorem digitValue_of_isDigit {c : Char} (h : c.isDigit = true) :
    digitValue c = ((c.toNat - '0'.toNat : Nat) : Int) := by
  have hle := (Char.isDigit_iff_toNat.1 h).1
  rw [digitValue]
  omega

theorem le_ofDigitChars (cs : List Char) (n : Nat) : n ≤ Nat.ofDigitChars 10 cs n := by
  rw [Nat.ofDigitChars_eq_ofDigitChars_zero]
  have hpow : 1 * n ≤ 10 ^ cs.length * n := Nat.mul_le_mul_right n (Nat.pow_pos (by decide))
  omega

/-- One digit after those worth `n`: it counts ten times less than they do, as long as the value
stays within 64 bits. -/
theorem readDigits_cons {sign : Int} (hsign : sign = 1 ∨ sign = -1) {c : Char}
    (hc : c.isDigit = true) (cs : List Char) (n : Nat) :
    readDigits sign (sign * n) (c :: cs)
      = let next : Int := sign * ((10 * n + (c.toNat - '0'.toNat) : Nat) : Int)
        if greatestInt64 < next then .error .tooLarge
        else if next < leastInt64 then .error .tooSmall
        else readDigits sign next cs := by
  have hnext : sign * n * 10 + sign * digitValue c
      = sign * ((10 * n + (c.toNat - '0'.toNat) : Nat) : Int) := by
    rw [digitValue_of_isDigit hc]
    push_cast
    rcases hsign with rfl | rfl <;> omega
  rw [readDigits, if_pos hc, hnext]

/-- **Digits are read as their value**, after those worth `n`, if it does not leave the range of 64
bits. The values on the way are no further from zero than the last. -/
theorem readDigits_of_isDigit {sign : Int} (hsign : sign = 1 ∨ sign = -1) {cs : List Char}
    (hcs : ∀ c ∈ cs, c.isDigit = true) (n : Nat)
    (hlow : leastInt64 ≤ sign * (Nat.ofDigitChars 10 cs n : Nat))
    (hhigh : sign * (Nat.ofDigitChars 10 cs n : Nat) ≤ greatestInt64) :
    readDigits sign (sign * n) cs = .ok (sign * (Nat.ofDigitChars 10 cs n : Nat)) := by
  induction cs generalizing n with
  | nil => rfl
  | cons c cs ih =>
    rw [Nat.ofDigitChars_cons] at hlow hhigh ⊢
    have hle := le_ofDigitChars cs (10 * n + (c.toNat - '0'.toNat))
    have hbounds : ¬ greatestInt64 < sign * ((10 * n + (c.toNat - '0'.toNat) : Nat) : Int)
        ∧ ¬ sign * ((10 * n + (c.toNat - '0'.toNat) : Nat) : Int) < leastInt64 := by
      simp only [leastInt64, greatestInt64] at hlow hhigh ⊢
      rcases hsign with rfl | rfl <;> omega
    rw [readDigits_cons hsign (hcs c List.mem_cons_self)]
    dsimp only
    rw [if_neg hbounds.1, if_neg hbounds.2]
    exact ih (fun d hd => hcs d (List.mem_cons_of_mem c hd)) _ hlow hhigh

theorem readLiteral_of_isDigit {c : Char} (hc : c.isDigit = true) (cs : List Char) :
    readLiteral (c :: cs) = readDigits 1 0 (c :: cs) := by
  unfold readLiteral
  split
  · contradiction
  · rename_i heq
    cases heq
    exact absurd hc (by decide)
  · rename_i heq
    cases heq
    exact absurd hc (by decide)
  · rfl

/-- **An integer is read as it was written.** -/
theorem readInt64_toString (n : Int64) :
    readInt64 (signOf n.toInt ++ digitsOf n.toInt) = .ok n := by
  have hlow := n.le_toInt
  have hhigh := n.toInt_lt
  have hdigits : ∀ c ∈ digitsOf n.toInt, c.isDigit = true := fun c => isDigit_of_mem_digitsOf
  have hvalue : Nat.ofDigitChars 10 (digitsOf n.toInt) 0 = n.toInt.natAbs :=
    Nat.ofDigitChars_ten_toDigits
  obtain ⟨d, ds, hds, -⟩ := digitsOf_eq_cons n.toInt
  rw [hds] at hdigits hvalue ⊢
  have hliteral : readLiteral (signOf n.toInt ++ d :: ds) = .ok n.toInt := by
    rw [signOf]
    split
    · rename_i hsign
      have hread := @readDigits_of_isDigit 1 (.inl rfl) (d :: ds) hdigits 0
      rw [hvalue] at hread
      have hn : 1 * (n.toInt.natAbs : Int) = n.toInt := by omega
      rw [List.nil_append, readLiteral_of_isDigit (hdigits d List.mem_cons_self), ← hn]
      exact hread (by simp only [leastInt64]; omega) (by simp only [greatestInt64]; omega)
    · rename_i hsign
      have hread := @readDigits_of_isDigit (-1) (.inr rfl) (d :: ds) hdigits 0
      rw [hvalue] at hread
      have hn : -1 * (n.toInt.natAbs : Int) = n.toInt := by omega
      rw [List.singleton_append, readLiteral, readSigned, ← hn]
      · exact hread (by simp only [leastInt64]; omega) (by simp only [greatestInt64]; omega)
      · exact fun h => nomatch h
  rw [readInt64, hliteral, Except.map, Int64.ofInt_toInt]

end TunnelOptions.Number

import Mathlib.Data.List.TakeWhile
import TunnelOptions.Proofs.Decimal
import TunnelOptions.Text.Quoted

/-!
# Quoted texts can be told apart

A quoted text ends at the first quote that is not escaped, so whatever stands behind it, where it
ends and what it quotes can be seen. The three ways in which a character is written do not get in
each other's way: only escapes start with a backslash, a numbered one goes on with a letter that
names no character, and its digits end at the brace.

That different texts are quoted differently would not be enough for what is made of quoted texts. In
an outline something follows the quote, and two outlines might be cut differently. So every fact is
about a text with something behind it, and says that the cut is the same as well. In this form it
passes from characters to texts, and from there to outlines.

* `Text.takeWhile_and_dropWhile_of_stop`, `Text.append_inj_of_stop`: a run of one class of
  characters can be cut off when something else stands behind it.
* `Text.Escaped`, `Text.escaped_escape`: the three ways of writing a character.
* `Text.escape_append_inj`, `Text.quoteChars_append_inj`: an escaped character and a quoted text can
  be cut off from what stands behind them in one way only.
* `Text.quote_injective`: different texts are quoted differently.
-/

set_option autoImplicit false

namespace TunnelOptions.Text

/-! ## Runs

Used for the digits of a numbered escape, which end at the brace, and for the words of an outline.
-/

/-- A run of characters of one class stops where the class does. -/
theorem takeWhile_and_dropWhile_of_stop {p : Char → Bool} {xs r : List Char}
    (hxs : ∀ c ∈ xs, p c = true) (hr : ∀ c ∈ r.head?, p c = false) :
    (xs ++ r).takeWhile p = xs ∧ (xs ++ r).dropWhile p = r := by
  have hstop : r.takeWhile p = [] ∧ r.dropWhile p = r := by
    cases r with
    | nil => exact ⟨rfl, rfl⟩
    | cons c r => simp [hr c rfl]
  rw [List.takeWhile_append_of_pos hxs, List.dropWhile_append_of_pos hxs, hstop.1, hstop.2,
    List.append_nil]
  exact ⟨rfl, rfl⟩

/-- Two runs of characters of one class come to the same only if they are the same, when neither
goes on behind. -/
theorem append_inj_of_stop {p : Char → Bool} {xs ys r r' : List Char}
    (hxs : ∀ c ∈ xs, p c = true) (hys : ∀ c ∈ ys, p c = true) (hr : ∀ c ∈ r.head?, p c = false)
    (hr' : ∀ c ∈ r'.head?, p c = false) (h : xs ++ r = ys ++ r') : xs = ys ∧ r = r' := by
  obtain ⟨htake, hdrop⟩ := takeWhile_and_dropWhile_of_stop hxs hr
  obtain ⟨htake', hdrop'⟩ := takeWhile_and_dropWhile_of_stop hys hr'
  exact ⟨by rw [← htake, h, htake'], by rw [← hdrop, h, hdrop']⟩

/-! ## Escaped characters

A pair of escaped characters is compared by the ways in which they are written. The ways exclude
each other by the first character or the second, and within each way the character can be read off.
-/

theorem digitChar_ne_brace {n : Nat} (hn : n < 16) : Nat.digitChar n ≠ '\x7d' := by
  have hall : ∀ n < 16, Nat.digitChar n ≠ '\x7d' := by decide
  exact hall n hn

theorem ne_brace_of_mem_toDigits {n : Nat} {c : Char} (h : c ∈ Nat.toDigits 16 n) :
    c ≠ '\x7d' := by
  induction n using Nat.strongRecOn with
  | ind n ih =>
    rw [Nat.toDigits_eq_if (by decide)] at h
    split at h
    · rename_i hn
      rw [List.mem_singleton.1 h]
      exact digitChar_ne_brace hn
    · rename_i hn
      rcases List.mem_append.1 h with hfront | hlast
      · exact ih (n / 16) (by omega) hfront
      · rw [List.mem_singleton.1 hlast]
        exact digitChar_ne_brace (Nat.mod_lt n (by decide))

/-- The character that a letter behind a backslash names. -/
def named? : Char → Option Char
  | '"' => some '"'
  | '\\' => some '\\'
  | 'n' => some '\n'
  | 'r' => some '\r'
  | 't' => some '\t'
  | '0' => some '\x00'
  | _ => none

/-- How a character is written inside quotes. -/
inductive Escaped (c : Char) : List Char → Prop where
  | named (letter : Char) (h : named? letter = some c) : Escaped c ['\\', letter]
  | numbered : Escaped c (['\\', 'u', '\x7b'] ++ Nat.toDigits 16 c.toNat ++ ['\x7d'])
  | plain (hquote : c ≠ '"') (hescape : c ≠ '\\') : Escaped c [c]

theorem escaped_escape (c : Char) : Escaped c (escape c) := by
  unfold escape
  split
  · exact .named '"' rfl
  · exact .named '\\' rfl
  · exact .named 'n' rfl
  · exact .named 'r' rfl
  · exact .named 't' rfl
  · exact .named '0' rfl
  · rename_i hquote hescape _ _ _ _
    split
    · exact .numbered
    · exact .plain hquote hescape

/-- **An escaped character can be told** from what stands behind it. -/
theorem Escaped.append_inj {c d : Char} {w w' r r' : List Char} (hc : Escaped c w)
    (hd : Escaped d w') (h : w ++ r = w' ++ r') : c = d ∧ r = r' := by
  cases hc with
  | named letter hletter =>
    cases hd with
    | named letter' hletter' =>
      obtain ⟨rfl, rfl⟩ : letter = letter' ∧ r = r' := by simpa using h
      exact ⟨Option.some.inj (hletter.symm.trans hletter'), rfl⟩
    | numbered =>
      obtain ⟨rfl, -⟩ : letter = 'u' ∧ _ := by simpa using h
      simp [named?] at hletter
    | plain _ hescape => exact absurd (List.cons.inj h).1.symm hescape
  | numbered =>
    cases hd with
    | named letter' hletter' =>
      obtain ⟨rfl, -⟩ : 'u' = letter' ∧ _ := by simpa using h
      simp [named?] at hletter'
    | numbered =>
      have hdigits : Nat.toDigits 16 c.toNat ++ '\x7d' :: r
          = Nat.toDigits 16 d.toNat ++ '\x7d' :: r' := by simpa using h
      obtain ⟨hnumber, hrest⟩ := @append_inj_of_stop (· != '\x7d') _ _ _ _
        (fun x hx => bne_iff_ne.2 (ne_brace_of_mem_toDigits hx))
        (fun x hx => bne_iff_ne.2 (ne_brace_of_mem_toDigits hx)) (by simp) (by simp) hdigits
      have hcode := Number.toDigits_injective (by decide) (by decide) hnumber
      exact ⟨Char.toNat_inj.1 hcode, (List.cons.inj hrest).2⟩
    | plain _ hescape => exact absurd (List.cons.inj h).1.symm hescape
  | plain _ hescape =>
    cases hd with
    | named => exact absurd (List.cons.inj h).1 hescape
    | numbered => exact absurd (List.cons.inj h).1 hescape
    | plain => exact List.cons.inj h

theorem escape_append_inj {c d : Char} {r r' : List Char} (h : escape c ++ r = escape d ++ r') :
    c = d ∧ r = r' :=
  (escaped_escape c).append_inj (escaped_escape d) h

/-- An escaped character does not start with a quote. -/
theorem escape_append_ne_quote (c : Char) (r r' : List Char) : escape c ++ r ≠ '"' :: r' := by
  have hescaped := escaped_escape c
  generalize escape c = w at hescaped
  intro h
  cases hescaped with
  | named letter => exact absurd (List.cons.inj h).1 (by decide)
  | numbered => exact absurd (List.cons.inj h).1 (by decide)
  | plain hquote => exact hquote (List.cons.inj h).1

/-! ## Quoted texts

No escaped character starts with a quote, so the closing quote is not taken for the start of one.
The induction goes along both texts. -/

theorem flatMap_escape_append_inj {cs ds r r' : List Char}
    (h : cs.flatMap escape ++ '"' :: r = ds.flatMap escape ++ '"' :: r') : cs = ds ∧ r = r' := by
  induction cs generalizing ds with
  | nil =>
    cases ds with
    | nil => exact ⟨rfl, (List.cons.inj h).2⟩
    | cons d ds =>
      rw [List.flatMap_cons, List.append_assoc] at h
      exact absurd h.symm (escape_append_ne_quote d _ _)
  | cons c cs ih =>
    cases ds with
    | nil =>
      rw [List.flatMap_cons, List.append_assoc] at h
      exact absurd h (escape_append_ne_quote c _ _)
    | cons d ds =>
      rw [List.flatMap_cons, List.flatMap_cons, List.append_assoc, List.append_assoc] at h
      obtain ⟨rfl, hrest⟩ := escape_append_inj h
      obtain ⟨rfl, hbehind⟩ := ih hrest
      exact ⟨rfl, hbehind⟩

/-- **A quoted text can be told** from what stands behind it. -/
theorem quoteChars_append_inj {cs ds r r' : List Char}
    (h : quoteChars cs ++ r = quoteChars ds ++ r') : cs = ds ∧ r = r' := by
  simp only [quoteChars, List.cons_append, List.append_assoc, List.nil_append, List.cons.injEq,
    true_and] at h
  exact flatMap_escape_append_inj h

theorem quote_injective : Function.Injective quote := by
  intro s t h
  have hchars : quoteChars s.toList = quoteChars t.toList := String.ofList_injective h
  have happend : quoteChars s.toList ++ [] = quoteChars t.toList ++ [] := by rw [hchars]
  exact String.toList_inj.1 (quoteChars_append_inj happend).1

end TunnelOptions.Text

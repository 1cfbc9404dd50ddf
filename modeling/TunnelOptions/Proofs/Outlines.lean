import Mathlib.Data.List.Basic
import TunnelOptions.Outline
import TunnelOptions.Proofs.Quoting

/-!
# Outlines can be told from their texts

A legible outline is made of words, quoted texts, and enclosed items behind a name that is a word.
In either layout its text says which outline it is, whatever the quoted texts hold. A reader tells
the kind of an outline from the head of its text, that is the leading word and what opens behind it;
an item ends where the text neither goes on with the word nor opens anything.

The two layouts differ in the white space and the commas between items. What the argument needs of
that punctuation is collected in `Layout`, so it is made once for both.

* `Outline.Legible`: outlines made of words and quoted texts.
* `Outline.headOf`, `Outline.Ends`: the head of a text, and texts with nothing at their head.
* `Outline.Layout`: a way of writing outlines; `Layout.oneLine`, `Layout.itemLines` are the two.
* `Layout.headOf_write`: the head of the text is the head of the outline.
* `Layout.enclose_append_inj`: enclosed pieces can be told when each of them can.
* `Layout.told_word` to `Layout.told_record`: an outline of each kind is told when its parts are.
* `Layout.write_append_inj`: a legible outline can be told from what stands behind it.
-/

set_option autoImplicit false

namespace TunnelOptions.Outline

/-! ## Heads

The head of a text is what a reader goes by before it knows anything else. Four things can open
behind a word, and if none does the item is over. -/

/-- The characters of names, numbers and constants. -/
def isWordChar (c : Char) : Bool :=
  c.isAlphanum || c == '_' || c == '-'

/-- What items can stand in. Which of the three it is tells groups, lists and records apart. -/
inductive Enclosure where
  | parens
  | brackets
  | braces
  deriving DecidableEq

namespace Enclosure

/-- What stands in front of the items. -/
def opens : Enclosure → List Char
  | .parens => ['(']
  | .brackets => ['[']
  | .braces => [' ', '\x7b']

/-- The character behind the items. -/
def closes : Enclosure → Char
  | .parens => ')'
  | .brackets => ']'
  | .braces => '\x7d'

end Enclosure

/-- What stands behind a leading word: a quote, the opening of an enclosure, or anything else. -/
inductive Front where
  | nothing
  | quote
  | enclosure (e : Enclosure)
  deriving DecidableEq

/-- The front of what stands behind a leading word. -/
def frontOf : List Char → Front
  | '"' :: _ => .quote
  | '(' :: _ => .enclosure .parens
  | '[' :: _ => .enclosure .brackets
  | ' ' :: '\x7b' :: _ => .enclosure .braces
  | _ => .nothing

/-- The head of a text: its leading word and the front behind it. -/
def headOf (cs : List Char) : List Char × Front :=
  (cs.takeWhile isWordChar, frontOf (cs.dropWhile isWordChar))

/-- A text that starts with no word and opens nothing. What stands behind an item is always such a
text, be it a comma, the end of an enclosure or the end of everything. -/
def Ends (cs : List Char) : Prop :=
  headOf cs = ([], .nothing)

theorem headOf_append {w r : List Char} (hw : ∀ c ∈ w, isWordChar c = true)
    (hr : ∀ c ∈ r.head?, isWordChar c = false) : headOf (w ++ r) = (w, frontOf r) := by
  obtain ⟨htake, hdrop⟩ := Text.takeWhile_and_dropWhile_of_stop hw hr
  rw [headOf, htake, hdrop]

theorem Ends.head? {r : List Char} (h : Ends r) : ∀ c ∈ r.head?, isWordChar c = false := by
  intro c hc
  cases r with
  | nil => cases hc
  | cons d r =>
    obtain rfl : d = c := Option.some.inj hc
    by_contra hword
    have hnil := congrArg Prod.fst h
    simp [headOf, hword] at hnil

theorem Ends.headOf_append {w r : List Char} (hr : Ends r) (hw : ∀ c ∈ w, isWordChar c = true) :
    headOf (w ++ r) = (w, .nothing) := by
  have hfront : frontOf r = .nothing := by
    have hhead := Outline.headOf_append (w := []) (by simp) hr.head?
    rw [List.nil_append, hr] at hhead
    exact (congrArg Prod.snd hhead).symm
  rw [Outline.headOf_append hw hr.head?, hfront]

/-! ## Legible outlines

A group or a record without items would have nothing between its brackets, and neither is ever made.
An empty list is, so it is the one kind that is legible without items. -/

/-- Whether a text is one word. -/
def isWord (s : String) : Bool :=
  !s.toList.isEmpty && s.toList.all isWordChar

theorem isWord_iff {s : String} :
    isWord s = true ↔ s.toList ≠ [] ∧ ∀ c ∈ s.toList, isWordChar c = true := by
  simp [isWord]

/-- An outline of words and quoted texts, with a word or nothing for each name. Only a list may be
without items. -/
inductive Legible : Outline → Prop where
  | word {w : String} (hw : isWord w = true) : Legible (.atom w)
  | text (s : String) : Legible (.text s)
  | group {name : String} {item : Outline} {items : List Outline}
      (hname : ∀ c ∈ name.toList, isWordChar c = true) (hitems : ∀ x ∈ item :: items, Legible x) :
      Legible (.group name (item :: items))
  | nil : Legible (.list [])
  | list {item : Outline} {items : List Outline} (hitems : ∀ x ∈ item :: items, Legible x) :
      Legible (.list (item :: items))
  | record {name : String} {field : String × Outline} {fields : List (String × Outline)}
      {more : Bool} (hname : ∀ c ∈ name.toList, isWordChar c = true)
      (hfields : ∀ x ∈ field :: fields, isWord x.1 = true)
      (hvalues : ∀ x ∈ field :: fields, Legible x.2) :
      Legible (.record name (field :: fields) more)

/-- The head that an outline has in every layout. -/
def head : Outline → List Char × Front
  | .atom text => headOf text.toList
  | .group name _ => (name.toList, .enclosure .parens)
  | .list _ => ([], .enclosure .brackets)
  | .record name _ _ => (name.toList, .enclosure .braces)

theorem head_word {w : String} (hw : isWord w = true) : (atom w).head = (w.toList, .nothing) := by
  have hhead := Outline.headOf_append (r := []) (isWord_iff.1 hw).2 (by simp)
  rwa [List.append_nil] at hhead

@[simp] theorem head_text (s : String) : (text s).head = ([], .quote) := by
  rw [text, head, Text.quote, String.toList_ofList, Text.quoteChars]
  rfl

@[simp] theorem head_group (name : String) (items : List Outline) :
    (group name items).head = (name.toList, .enclosure .parens) := rfl

@[simp] theorem head_list (items : List Outline) :
    (list items).head = ([], .enclosure .brackets) := rfl

@[simp] theorem head_record (name : String) (fields : List (String × Outline)) (more : Bool) :
    (record name fields more).head = (name.toList, .enclosure .braces) := rfl

theorem Legible.head_ne {a : Outline} (ha : Legible a) : a.head ≠ ([], .nothing) := by
  intro h
  cases ha with
  | word hw =>
    rw [head_word hw] at h
    exact (isWord_iff.1 hw).1 (congrArg Prod.fst h)
  | _ => simp at h

/-! ### Values

The outlines of values are legible, and different values of a type have different outlines. -/

theorem legible_bool (b : Bool) : Legible (bool b) := by
  cases b <;> exact .word rfl

theorem legible_int (n : Int) : Legible (int n) := by
  refine .word (isWord_iff.2 ⟨?_, ?_⟩) <;> rw [Number.toList_toString]
  · simp [Number.digitsOf, Nat.toDigits_ne_nil]
  · intro c hc
    rcases List.mem_append.1 hc with hsign | hdigit
    · obtain rfl : c = '-' := by
        unfold Number.signOf at hsign
        split at hsign <;> simp_all
      rfl
    · simp [isWordChar, Char.isAlphanum, Number.isDigit_of_mem_digitsOf hdigit]

theorem legible_option {o : Option Outline} (h : ∀ a ∈ o, Legible a) : Legible (option o) := by
  cases o with
  | none => exact .word rfl
  | some a => exact .group (List.all_eq_true.1 rfl) (by simpa using h)

theorem legible_texts (items : List String) : Legible (texts items) := by
  cases items with
  | nil => exact .nil
  | cons item items =>
    refine .list fun x hx => ?_
    rw [← List.map_cons] at hx
    obtain ⟨s, -, rfl⟩ := List.mem_map.1 hx
    exact .text s

theorem text_injective : Function.Injective text :=
  fun _ _ h => Text.quote_injective (atom.inj h)

theorem bool_injective : Function.Injective bool := by
  intro a b h
  cases a <;> cases b <;> simp_all [bool]

theorem int_injective : Function.Injective int :=
  fun _ _ h => Number.toString_injective (atom.inj h)

theorem option_injective : Function.Injective option := by
  intro o o' h
  cases o <;> cases o' <;> simp_all [option]

theorem texts_injective : Function.Injective texts :=
  fun _ _ h => List.map_injective_iff.2 text_injective (list.inj h)

/-! ## Layouts -/

/-- The white space and the commas of a layout, at each level. The brackets are not among them,
since they are the same in every layout. -/
structure Punctuation where
  /-- From the opening to the first item. -/
  lead : Nat → Enclosure → List Char
  /-- Between two items. -/
  comma : Nat → List Char
  /-- From the last item to the end. The flag says that some are left out. -/
  closing : Nat → Enclosure → Bool → List Char

/-- What stands behind the first of some pieces. -/
def Punctuation.behind (marks : Punctuation) (level : Nat) (e : Enclosure) (more : Bool)
    (pieces : List (List Char)) : List Char :=
  pieces.flatMap (marks.comma level ++ ·) ++ marks.closing level e more

/-- Pieces in an enclosure. -/
def Punctuation.enclose (marks : Punctuation) (level : Nat) (e : Enclosure) (more : Bool)
    (piece : List Char) (pieces : List (List Char)) : List Char :=
  e.opens ++ marks.lead level e ++ piece ++ marks.behind level e more pieces

/-- A field, its value written by `write`. -/
def writeField (write : Outline → List Char) (field : String × Outline) : List Char :=
  field.1.toList ++ ": ".toList ++ write field.2

/-- A way of writing outlines whose punctuation cannot be taken for the start of an item. -/
structure Layout extends Punctuation where
  /-- An outline at a level. -/
  write : Nat → Outline → List Char
  write_atom (n : Nat) (text : String) : write n (.atom text) = text.toList
  write_group (n : Nat) (name : String) (item : Outline) (items : List Outline) :
    write n (.group name (item :: items)) = name.toList
      ++ toPunctuation.enclose n .parens false (write (n + 1) item) (items.map (write (n + 1)))
  write_nil (n : Nat) : write n (.list []) = ['[', ']']
  write_list (n : Nat) (item : Outline) (items : List Outline) :
    write n (.list (item :: items))
      = toPunctuation.enclose n .brackets false (write (n + 1) item) (items.map (write (n + 1)))
  write_record (n : Nat) (name : String) (field : String × Outline)
      (fields : List (String × Outline)) (more : Bool) :
    write n (.record name (field :: fields) more) = name.toList
      ++ toPunctuation.enclose n .braces more (writeField (write (n + 1)) field)
        (fields.map (writeField (write (n + 1))))
  -- an item ends at its comma and at the end of the enclosure
  ends_comma (n : Nat) (r : List Char) : Ends (comma n ++ r)
  ends_closing (n : Nat) (e : Enclosure) (more : Bool) (r : List Char) :
    Ends (closing n e more ++ r)
  -- only what is no item can make one piece of punctuation look like another
  ends_of_lead {n : Nat} {x r : List Char} : lead n .brackets ++ x = ']' :: r → Ends x
  ends_of_comma {n : Nat} {e : Enclosure} {more : Bool} {x r : List Char} :
    comma n ++ x = closing n e more ++ r → Ends x
  closing_inj {n : Nat} {e : Enclosure} {more more' : Bool} {r r' : List Char} :
    closing n e more ++ r = closing n e more' ++ r' → more = more' ∧ r = r'

namespace Layout

variable (L : Layout)

theorem ends_behind (n : Nat) (e : Enclosure) (more : Bool) (pieces : List (List Char))
    (r : List Char) : Ends (L.behind n e more pieces ++ r) := by
  cases pieces with
  | nil => exact L.ends_closing n e more r
  | cons piece pieces =>
    rw [Punctuation.behind, List.flatMap_cons, List.append_assoc, List.append_assoc,
      List.append_assoc]
    exact L.ends_comma n _

/-- **The head of the text is the head of the outline.** -/
theorem headOf_write {a : Outline} (ha : Legible a) (n : Nat) {r : List Char} (hr : Ends r) :
    headOf (L.write n a ++ r) = a.head := by
  cases ha with
  | word hw => rw [L.write_atom, hr.headOf_append (isWord_iff.1 hw).2, head_word hw]
  | text s =>
    rw [head_text, text, L.write_atom, Text.quote, String.toList_ofList]
    rfl
  | group hname =>
    rw [L.write_group, List.append_assoc]
    exact Outline.headOf_append hname (by simp [Punctuation.enclose, Enclosure.opens, isWordChar])
  | nil => rw [L.write_nil]; rfl
  | list => rw [L.write_list]; rfl
  | record hname =>
    rw [L.write_record, List.append_assoc]
    exact Outline.headOf_append hname (by simp [Punctuation.enclose, Enclosure.opens, isWordChar])

theorem not_ends_write {a : Outline} (ha : Legible a) (n : Nat) {r : List Char} (hr : Ends r) :
    ¬ Ends (L.write n a ++ r) := by
  intro h
  rw [Ends, L.headOf_write ha n hr] at h
  exact ha.head_ne h

/-! ### Pieces

What stands in an enclosure are outlines or fields, and the argument is the same for both: it needs
no more than that each piece can be told from what stands behind it, and that nothing that ends an
item could start one. -/

/-- A thing that can be told among those of `p` from what is written for it by `f`, whatever stands
behind. -/
structure Told {α : Type} (p : α → Prop) (f : α → List Char) (x : α) : Prop where
  mem : p x
  inj {y : α} {r r' : List Char} :
    p y → Ends r → Ends r' → f x ++ r = f y ++ r' → x = y ∧ r = r'

section Pieces

variable {α : Type} {p : α → Prop} {f : α → List Char} {n : Nat} {e : Enclosure} {more more' : Bool}
  {r r' : List Char}

/-- **The pieces behind the first can be told**, and with them what stands behind all of them. -/
theorem behind_append_inj (hstart : ∀ x r, p x → Ends r → ¬ Ends (f x ++ r)) {xs ys : List α}
    (hxs : ∀ x ∈ xs, Told p f x) (hys : ∀ y ∈ ys, p y)
    (h : L.behind n e more (xs.map f) ++ r = L.behind n e more' (ys.map f) ++ r') :
    xs = ys ∧ more = more' ∧ r = r' := by
  have hcons (y : α) (ys : List α) (more : Bool) (r : List Char) :
      L.behind n e more ((y :: ys).map f) ++ r
        = L.comma n ++ (f y ++ (L.behind n e more (ys.map f) ++ r)) := by
    simp [Punctuation.behind]
  -- a comma in one text and the closing in the other would make a piece out of no piece
  have hlast {y : α} {ys : List α} {more more' : Bool} {r r' : List Char} (hy : p y) :
      L.behind n e more ((y :: ys).map f) ++ r ≠ L.closing n e more' ++ r' := by
    intro h
    rw [hcons] at h
    exact hstart y _ hy (L.ends_behind n e more _ r) (L.ends_of_comma h)
  induction xs generalizing ys with
  | nil =>
    cases ys with
    | nil => exact ⟨rfl, L.closing_inj h⟩
    | cons y ys => exact absurd h.symm (hlast (hys y List.mem_cons_self))
  | cons x xs ih =>
    cases ys with
    | nil => exact absurd h (hlast (hxs x List.mem_cons_self).mem)
    | cons y ys =>
      rw [List.forall_mem_cons] at hxs hys
      rw [hcons, hcons] at h
      obtain ⟨rfl, hrest⟩ := hxs.1.inj hys.1 (L.ends_behind n e more _ r)
        (L.ends_behind n e more' _ r') (List.append_cancel_left h)
      obtain ⟨rfl, hend⟩ := ih hxs.2 hys.2 hrest
      exact ⟨rfl, hend⟩

/-- **Enclosed pieces can be told**, and with them what stands behind the enclosure. -/
theorem enclose_append_inj (hstart : ∀ x r, p x → Ends r → ¬ Ends (f x ++ r)) {x y : α}
    {xs ys : List α} (hxs : ∀ z ∈ x :: xs, Told p f z) (hys : ∀ z ∈ y :: ys, p z)
    (h : L.enclose n e more (f x) (xs.map f) ++ r = L.enclose n e more' (f y) (ys.map f) ++ r') :
    x :: xs = y :: ys ∧ more = more' ∧ r = r' := by
  rw [List.forall_mem_cons] at hxs hys
  simp only [Punctuation.enclose, List.append_assoc, List.append_cancel_left_eq] at h
  obtain ⟨rfl, hrest⟩ := hxs.1.inj hys.1 (L.ends_behind n e more _ r)
    (L.ends_behind n e more' _ r') h
  obtain ⟨rfl, hend⟩ := L.behind_append_inj hstart hxs.2 hys.2 hrest
  exact ⟨rfl, hend⟩

end Pieces

/-! ### Fields

The name of a field is a word and its value an outline. The colon between them opens nothing, so it
ends the name. -/

/-- A field whose name is a word and whose value is legible. -/
def LegibleField (field : String × Outline) : Prop :=
  isWord field.1 = true ∧ Legible field.2

theorem headOf_writeField (n : Nat) {field : String × Outline} (h : LegibleField field)
    (r : List Char) : headOf (writeField (L.write n) field ++ r) = (field.1.toList, .nothing) := by
  rw [writeField, List.append_assoc, List.append_assoc]
  exact Outline.headOf_append (isWord_iff.1 h.1).2 (by simp [isWordChar])

theorem not_ends_writeField (n : Nat) {field : String × Outline} (h : LegibleField field)
    (r : List Char) : ¬ Ends (writeField (L.write n) field ++ r) := by
  intro hends
  rw [Ends, L.headOf_writeField n h] at hends
  exact (isWord_iff.1 h.1).1 (congrArg Prod.fst hends)

theorem told_field {n : Nat} {field : String × Outline} (hname : isWord field.1 = true)
    (hvalue : Told Legible (L.write n) field.2) :
    Told LegibleField (writeField (L.write n)) field where
  mem := ⟨hname, hvalue.mem⟩
  inj {other r r'} hother hr hr' h := by
    have hfirst : field.1.toList = other.1.toList := by
      have hhead := L.headOf_writeField n ⟨hname, hvalue.mem⟩ r
      rw [h, L.headOf_writeField n hother] at hhead
      exact (congrArg Prod.fst hhead).symm
    simp only [writeField, hfirst, List.append_assoc, List.append_cancel_left_eq] at h
    obtain ⟨hsecond, hrest⟩ := hvalue.inj hother.2 hr hr' h
    exact ⟨Prod.ext (String.toList_inj.1 hfirst) hsecond, hrest⟩

/-! ### Outlines -/

theorem head_eq {a b : Outline} {n : Nat} {r r' : List Char} (ha : Legible a) (hb : Legible b)
    (hr : Ends r) (hr' : Ends r') (h : L.write n a ++ r = L.write n b ++ r') : b.head = a.head := by
  rw [← L.headOf_write hb n hr', ← h, L.headOf_write ha n hr]

/-! Told outlines, one kind after the other: the other outline has the same head, so it is of the
same kind, and the parts are told one by one. -/

theorem told_word {w : String} (hw : isWord w = true) (n : Nat) :
    Told Legible (L.write n) (.atom w) where
  mem := .word hw
  inj {b r r'} hb hr hr' h := by
    have hhead := L.head_eq (.word hw) hb hr hr' h
    rw [head_word hw] at hhead
    cases hb with
    | word hw' =>
      rw [head_word hw', Prod.mk.injEq, String.toList_inj] at hhead
      obtain rfl := hhead.1
      exact ⟨rfl, List.append_cancel_left h⟩
    | _ => simp at hhead

theorem told_text (s : String) (n : Nat) : Told Legible (L.write n) (text s) where
  mem := .text s
  inj {b r r'} hb hr hr' h := by
    have hhead := L.head_eq (.text s) hb hr hr' h
    rw [head_text] at hhead
    cases hb with
    | text t =>
      simp only [text, L.write_atom, Text.quote, String.toList_ofList] at h
      obtain ⟨hchars, hrest⟩ := Text.quoteChars_append_inj h
      exact ⟨by rw [String.toList_inj.1 hchars], hrest⟩
    | word hw' => simp [head_word hw'] at hhead
    | _ => simp at hhead

theorem told_group {name : String} (hname : ∀ c ∈ name.toList, isWordChar c = true) {n : Nat}
    {item : Outline} {items : List Outline}
    (hitems : ∀ x ∈ item :: items, Told Legible (L.write (n + 1)) x) :
    Told Legible (L.write n) (.group name (item :: items)) where
  mem := .group hname fun x hx => (hitems x hx).mem
  inj {b r r'} hb hr hr' h := by
    have hhead := L.head_eq (.group hname fun x hx => (hitems x hx).mem) hb hr hr' h
    cases hb with
    | group hname' hitems' =>
      obtain rfl := String.toList_inj.1 (congrArg Prod.fst hhead)
      rw [L.write_group, L.write_group, List.append_assoc, List.append_assoc] at h
      obtain ⟨hall, -, hrest⟩ := L.enclose_append_inj (fun x r hx => L.not_ends_write hx _)
        hitems hitems' (List.append_cancel_left h)
      exact ⟨by rw [hall], hrest⟩
    | word hw' => simp [head_word hw'] at hhead
    | _ => simp at hhead

theorem list_nil_ne_cons {n : Nat} {item : Outline} (hitem : Legible item) (items : List Outline)
    (r r' : List Char) :
    L.write n (.list []) ++ r ≠ L.write n (.list (item :: items)) ++ r' := by
  intro h
  have hrest : L.lead n .brackets
      ++ (L.write (n + 1) item
        ++ (L.behind n .brackets false (items.map (L.write (n + 1))) ++ r')) = ']' :: r := by
    simpa [L.write_nil, L.write_list, Punctuation.enclose, Enclosure.opens] using h.symm
  exact L.not_ends_write hitem (n + 1) (L.ends_behind _ _ _ _ _) (L.ends_of_lead hrest)

theorem told_list {n : Nat} {items : List Outline}
    (hitems : ∀ x ∈ items, Told Legible (L.write (n + 1)) x) :
    Told Legible (L.write n) (.list items) where
  mem := by
    cases items with
    | nil => exact .nil
    | cons item items => exact .list fun x hx => (hitems x hx).mem
  inj {b r r'} hb hr hr' h := by
    cases items with
    | nil =>
      have hhead := L.head_eq .nil hb hr hr' h
      cases hb with
      | nil => exact ⟨rfl, List.append_cancel_left h⟩
      | list hitems' =>
        exact absurd h (L.list_nil_ne_cons (hitems' _ List.mem_cons_self) _ r r')
      | word hw' => simp [head_word hw'] at hhead
      | _ => simp at hhead
    | cons item items =>
      have hhead := L.head_eq (.list fun x hx => (hitems x hx).mem) hb hr hr' h
      cases hb with
      | nil =>
        exact absurd h.symm (L.list_nil_ne_cons (hitems _ List.mem_cons_self).mem _ r' r)
      | list hitems' =>
        rw [L.write_list, L.write_list] at h
        obtain ⟨hall, -, hrest⟩ := L.enclose_append_inj (fun x r hx => L.not_ends_write hx _)
          hitems hitems' h
        exact ⟨by rw [hall], hrest⟩
      | word hw' => simp [head_word hw'] at hhead
      | _ => simp at hhead

theorem told_record {name : String} (hname : ∀ c ∈ name.toList, isWordChar c = true) {n : Nat}
    {field : String × Outline} {fields : List (String × Outline)} {more : Bool}
    (hfields : ∀ x ∈ field :: fields, Told LegibleField (writeField (L.write (n + 1))) x) :
    Told Legible (L.write n) (.record name (field :: fields) more) where
  mem := .record hname (fun x hx => (hfields x hx).mem.1) fun x hx => (hfields x hx).mem.2
  inj {b r r'} hb hr hr' h := by
    have hlegible : Legible (.record name (field :: fields) more) :=
      .record hname (fun x hx => (hfields x hx).mem.1) fun x hx => (hfields x hx).mem.2
    have hhead := L.head_eq hlegible hb hr hr' h
    cases hb with
    | record hname' hnames' hvalues' =>
      obtain rfl := String.toList_inj.1 (congrArg Prod.fst hhead)
      rw [L.write_record, L.write_record, List.append_assoc, List.append_assoc] at h
      obtain ⟨hall, rfl, hrest⟩ := L.enclose_append_inj
        (fun x r hx _ => L.not_ends_writeField _ hx r) hfields
        (fun x hx => ⟨hnames' x hx, hvalues' x hx⟩) (List.append_cancel_left h)
      exact ⟨by rw [hall], hrest⟩
    | word hw' => simp [head_word hw'] at hhead
    | _ => simp at hhead

theorem told_of_legible {a : Outline} (ha : Legible a) (n : Nat) :
    Told Legible (L.write n) a := by
  induction ha generalizing n with
  | word hw => exact L.told_word hw n
  | text s => exact L.told_text s n
  | group hname _ ih => exact L.told_group hname fun x hx => ih x hx (n + 1)
  | nil => exact L.told_list (by simp)
  | list _ ih => exact L.told_list fun x hx => ih x hx (n + 1)
  | record hname hnames _ ih =>
    exact L.told_record hname fun x hx => L.told_field (hnames x hx) (ih x hx (n + 1))

/-- **A legible outline can be told from its text**, whatever stands behind the text. -/
theorem write_append_inj {a b : Outline} {n : Nat} {r r' : List Char} (ha : Legible a)
    (hb : Legible b) (hr : Ends r) (hr' : Ends r') (h : L.write n a ++ r = L.write n b ++ r') :
    a = b ∧ r = r' :=
  (L.told_of_legible ha n).inj hb hr hr' h

end Layout

/-! ## On one line

The recursion puts a comma behind every item but the last, a layout in front of every item but the
first. They are the same commas. -/

theorem inlineItems_cons (item : Outline) (items : List Outline) :
    inlineItems (item :: items)
      = item.inline ++ (items.map inline).flatMap ([',', ' '] ++ ·) := by
  induction items generalizing item with
  | nil => simp [inlineItems]
  | cons next items ih => simp [inlineItems, ih next]

theorem inlineFields_cons (field : String × Outline) (fields : List (String × Outline)) :
    inlineFields (field :: fields)
      = writeField inline field ++ (fields.map (writeField inline)).flatMap ([',', ' '] ++ ·) := by
  induction fields generalizing field with
  | nil => simp [inlineFields, writeField]
  | cons next fields ih => simp [inlineFields, writeField, ih next]

/-- The punctuation on one line. -/
def inlineMarks : Punctuation where
  lead _ e := if e = .braces then [' '] else []
  comma _ := [',', ' ']
  closing _ e more :=
    (if more then [',', ' ', '.', '.'] else []) ++ (if e = .braces then [' '] else []) ++ [e.closes]

/-- Everything on one line. -/
def Layout.oneLine : Layout where
  toPunctuation := inlineMarks
  write _ := inline
  write_atom _ _ := by rw [inline]
  write_group _ name item items := by
    simp [inline, inlineItems_cons, inlineMarks, Punctuation.enclose, Punctuation.behind,
      Enclosure.opens, Enclosure.closes]
  write_nil _ := by simp [inline, inlineItems]
  write_list _ item items := by
    simp [inline, inlineItems_cons, inlineMarks, Punctuation.enclose, Punctuation.behind,
      Enclosure.opens, Enclosure.closes]
  write_record _ name field fields more := by
    cases more <;>
      simp [inline, inlineFields_cons, inlineMarks, Punctuation.enclose, Punctuation.behind,
        Enclosure.opens, Enclosure.closes]
  ends_comma _ _ := rfl
  ends_closing _ e more _ := by cases e <;> cases more <;> rfl
  ends_of_lead h := by
    obtain rfl := h
    rfl
  ends_of_comma := by
    intro _ e more x r h
    cases more with
    | false => cases e <;> simp [inlineMarks, Enclosure.closes] at h
    | true =>
      obtain rfl : x = ['.', '.'] ++ ((if e = .braces then [' '] else []) ++ e.closes :: r) := by
        simpa [inlineMarks] using h
      rfl
  closing_inj := by
    intro _ e more more' r r' h
    cases e <;> cases more <;> cases more' <;> simp_all [inlineMarks, Enclosure.closes]

/-! ## One item a line

Every item has a comma behind it here, and the last one is counted among the punctuation of the end.
-/

theorem margin_succ (n : Nat) : margin (n + 1) = margin n ++ [' ', ' ', ' ', ' '] := by
  rw [margin, margin, Nat.mul_add, ← List.replicate_append_replicate]
  rfl

theorem indentedItems_cons (n : Nat) (item : Outline) (items : List Outline) :
    indentedItems n (item :: items) = margin (n + 1) ++ item.indentedAt (n + 1)
      ++ (items.map (indentedAt (n + 1))).flatMap ([',', '\n'] ++ margin (n + 1) ++ ·)
      ++ [',', '\n'] := by
  induction items generalizing item with
  | nil => simp [indentedItems]
  | cons next items ih =>
    rw [indentedItems, ih next]
    simp

theorem indentedFields_cons (n : Nat) (field : String × Outline)
    (fields : List (String × Outline)) :
    indentedFields n (field :: fields) = margin (n + 1) ++ writeField (indentedAt (n + 1)) field
      ++ (fields.map (writeField (indentedAt (n + 1)))).flatMap
        ([',', '\n'] ++ margin (n + 1) ++ ·)
      ++ [',', '\n'] := by
  induction fields generalizing field with
  | nil => simp [indentedFields, writeField]
  | cons next fields ih =>
    rw [indentedFields, ih next]
    simp [writeField]

/-- The punctuation of one item a line. -/
def indentedMarks : Punctuation where
  lead n _ := '\n' :: margin (n + 1)
  comma n := [',', '\n'] ++ margin (n + 1)
  closing n e more :=
    [',', '\n'] ++ (if more then margin (n + 1) ++ ['.', '.', '\n'] else []) ++ margin n
      ++ [e.closes]

/-- One item a line. -/
def Layout.itemLines : Layout where
  toPunctuation := indentedMarks
  write := indentedAt
  write_atom _ _ := by rw [indentedAt]
  write_group _ name item items := by
    simp [indentedAt, indentedItems_cons, indentedMarks, Punctuation.enclose, Punctuation.behind,
      Enclosure.opens, Enclosure.closes]
  write_nil _ := by simp [indentedAt]
  write_list _ item items := by
    simp [indentedAt, indentedItems_cons, indentedMarks, Punctuation.enclose, Punctuation.behind,
      Enclosure.opens, Enclosure.closes]
  write_record _ name field fields more := by
    simp [indentedAt, indentedFields_cons, indentedMarks, Punctuation.enclose, Punctuation.behind,
      Enclosure.opens, Enclosure.closes]
  ends_comma _ _ := rfl
  ends_closing _ _ _ _ := rfl
  ends_of_lead h := absurd (List.cons.inj h).1 (by decide)
  ends_of_comma := by
    intro n e more x r h
    cases more with
    | false => cases e <;> simp [indentedMarks, Enclosure.closes, margin_succ] at h
    | true =>
      obtain rfl : x = ['.', '.', '\n'] ++ (margin n ++ e.closes :: r) := by
        simpa [indentedMarks] using h
      rfl
  closing_inj := by
    intro n e more more' r r' h
    cases e <;> cases more <;> cases more' <;>
      simp_all [indentedMarks, Enclosure.closes, margin_succ]

end TunnelOptions.Outline

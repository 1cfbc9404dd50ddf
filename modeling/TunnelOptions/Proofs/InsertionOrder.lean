import Mathlib.Data.Finset.Card
import TunnelOptions.Proofs.OptionValues

/-!
# What an option map remembers

An option map is filled by pairs that are written one after the other, and what it holds in the end
is told by their sequence alone: a key stands where it first came, with the value it was given last.
A write that comes again finds its key and goes to its place, so nothing else moves. The pairs
themselves can be forgotten: the entries of a map, collected again, give the map.

That a map holds what some pairs leave is a relation between the pairs and the map, `Collected`. It
has three clauses: which keys there are, in which order, and which value each has; together they
determine the map. One more pair keeps them (`Collected.put`), and everything that fills a map
writes one pair after the other, so each way of filling one is an induction with that step.

The order is said with first positions in the pairs, and the value with a pair that no later one of
its key follows. Both can be read without knowing how a map is kept.

A collection that keeps its keys sorted has the same keys and values in another order. Its entries
are those of the map, sorted; the keys come out in strict order because they are distinct and texts
with the same bytes are the same.

* `Entries.LastValue`: the value that some pairs give a key last.
* `OptionMap.Collected`, `OptionMap.Collected.put`: a map holds what some pairs leave, and one more
  pair.
* `OptionMap.insertAll`, `OptionMap.Collected.insertAll`: pairs inserted one after the other, with
  the values handed back.
* `OptionMap.get?_ofSorted`, `OptionMap.pairwise_keys_ofSorted`: the map of a collection that keeps
  its keys sorted.
* `OptionMap.insertion_ordered`: maps remember the first place and the last value.
-/

set_option autoImplicit false

namespace TunnelOptions

/-! ## Entries

These are facts about one write into a list of entries, with no option in them. -/

namespace Entries

variable {α : Type}

/-- The last of some pairs under a key holds the value. -/
def LastValue (pairs : List (String × α)) (key : String) (value : α) : Prop :=
  ∃ before after, pairs = before ++ (key, value) :: after ∧ key ∉ keys after

/-- One more pair is the last of its key, and is passed over for any other. -/
theorem lastValue_concat {pairs : List (String × α)} {key other : String} {value held : α} :
    LastValue (pairs ++ [(key, value)]) other held
      ↔ other = key ∧ held = value ∨ other ≠ key ∧ LastValue pairs other held := by
  constructor
  · rintro ⟨before, after, hsplit, hafter⟩
    rcases List.eq_nil_or_concat after with rfl | ⟨front, last, rfl⟩
    · obtain ⟨-, hlast⟩ := List.append_inj' hsplit rfl
      simp only [List.cons.injEq, Prod.mk.injEq, and_true] at hlast
      exact .inl ⟨hlast.1.symm, hlast.2.symm⟩
    · have hconcat : pairs ++ [(key, value)] = (before ++ (other, held) :: front) ++ [last] := by
        simpa using hsplit
      obtain ⟨hpairs, hlast⟩ := List.append_inj' hconcat rfl
      obtain rfl : (key, value) = last := by simpa using hlast
      obtain ⟨hfront, hne⟩ : other ∉ keys front ∧ other ≠ key := by
        simpa [keys, not_or] using hafter
      exact .inr ⟨hne, before, front, hpairs, hfront⟩
  · rintro (⟨rfl, rfl⟩ | ⟨hne, before, after, rfl, hafter⟩)
    · exact ⟨pairs, [], rfl, List.not_mem_nil⟩
    · refine ⟨before, after ++ [(key, value)], by simp, ?_⟩
      simpa [keys, hne] using hafter

theorem get?_eq_some_iff_mem {entries : List (String × α)} (hnodup : (keys entries).Nodup)
    {key : String} {value : α} : get? key entries = some value ↔ (key, value) ∈ entries := by
  induction entries with
  | nil => simp [get?]
  | cons entry entries ih =>
    obtain ⟨k, a⟩ := entry
    obtain ⟨hk, hrest⟩ := List.nodup_cons.1 hnodup
    by_cases h : k = key
    · subst h
      have hlater : (k, value) ∉ entries := fun hm => hk (List.mem_map.2 ⟨_, hm, rfl⟩)
      simp [get?, hlater, eq_comm]
    · simp [get?, h, Ne.symm h, ih hrest]

/-- A write leaves the entries of other keys where they are. -/
theorem getElem?_put {key other : String} (hne : other ≠ key) (value held : α)
    (entries : List (String × α)) (i : Nat) :
    (put key value entries)[i]? = some (other, held) ↔ entries[i]? = some (other, held) := by
  induction entries generalizing i with
  | nil => cases i <;> simp [put, Ne.symm hne]
  | cons entry entries ih =>
    obtain ⟨k, a⟩ := entry
    by_cases h : k = key
    · subst h
      cases i <;> simp [put, Ne.symm hne]
    · cases i with
      | zero => simp [put, h]
      | succ i => simpa [put, h] using ih i

end Entries

theorem Value.sameAs_self (value : Value) : value.sameAs value = true := by
  cases value <;> simp [sameAs]

namespace OptionMap

/-! ## What some pairs leave

A key that comes again keeps its first position, and one that is new gets the last position there
is. These are the two cases of each clause. -/

theorem get?_eq_some_iff_mem {map : OptionMap} {key : String} {value : Value} :
    map.get? key = some value ↔ (key, value) ∈ map.entries :=
  Entries.get?_eq_some_iff_mem map.nodup

/-- A map holds what some pairs leave: their keys in the order in which they first come, each with
the value that it was given last. -/
structure Collected (pairs : List (String × Value)) (map : OptionMap) : Prop where
  mem_keys : ∀ key, key ∈ map.keys ↔ key ∈ Entries.keys pairs
  order : map.keys.Pairwise fun a b =>
    (Entries.keys pairs).idxOf a < (Entries.keys pairs).idxOf b
  get?_iff : ∀ key value, map.get? key = some value ↔ Entries.LastValue pairs key value

namespace Collected

theorem empty : Collected [] .empty where
  mem_keys _ := Iff.rfl
  order := List.Pairwise.nil
  get?_iff key value := by
    simp [OptionMap.get?, OptionMap.empty, Entries.get?, Entries.LastValue]

variable {pairs : List (String × Value)} {map : OptionMap}

/-- A first place is no later one: what has come keeps it, and what comes now gets the last. -/
theorem order_put (h : Collected pairs map) (key : String) (value : Value) :
    (map.put key value).keys.Pairwise fun a b =>
      (Entries.keys pairs ++ [key]).idxOf a < (Entries.keys pairs ++ [key]).idxOf b := by
  have hold : map.keys.Pairwise fun a b =>
      (Entries.keys pairs ++ [key]).idxOf a < (Entries.keys pairs ++ [key]).idxOf b := by
    refine h.order.imp_of_mem fun ha hb hlt => ?_
    rwa [List.idxOf_append_of_mem ((h.mem_keys _).1 ha),
      List.idxOf_append_of_mem ((h.mem_keys _).1 hb)]
  show (Entries.keys (Entries.put key value map.entries)).Pairwise _
  rw [Entries.keys_put]
  split
  · exact hold
  · rename_i hnew
    have hcame : key ∉ Entries.keys pairs := fun hm => hnew ((h.mem_keys key).2 hm)
    refine List.pairwise_append.2 ⟨hold, List.pairwise_singleton _ _, ?_⟩
    intro a ha b hb
    obtain rfl := List.mem_singleton.1 hb
    have hplace := List.idxOf_lt_length_of_mem ((h.mem_keys a).1 ha)
    rw [List.idxOf_append_of_mem ((h.mem_keys a).1 ha), List.idxOf_append_of_notMem hcame]
    omega

/-- **One more pair** is collected by a write. -/
theorem put (h : Collected pairs map) (key : String) (value : Value) :
    Collected (pairs ++ [(key, value)]) (map.put key value) where
  mem_keys other := by
    have hkeys := h.mem_keys other
    show other ∈ Entries.keys (Entries.put key value map.entries) ↔ _
    rw [Entries.keys_put]
    split
    -- A key that is there has come before, so the last pair adds no key.
    · rename_i hthere
      have hcame : key ∈ Entries.keys pairs := (h.mem_keys key).1 hthere
      simp only [Entries.keys, OptionMap.keys, List.map_append, List.mem_append] at hkeys hcame ⊢
      rw [hkeys]
      refine ⟨.inl, fun hor => hor.elim id fun hlast => ?_⟩
      obtain rfl : other = key := by simpa using hlast
      exact hcame
    · simp only [Entries.keys, OptionMap.keys, List.map_append, List.mem_append] at hkeys ⊢
      rw [hkeys]
      simp
  order := by
    have hkeys : Entries.keys (pairs ++ [(key, value)]) = Entries.keys pairs ++ [key] :=
      List.map_append
    rw [hkeys]
    exact h.order_put key value
  get?_iff other held := by
    rw [Entries.lastValue_concat, ← h.get?_iff other held]
    by_cases hother : other = key
    · subst hother
      have hput := Entries.get?_put_self other value map.entries
      simp only [OptionMap.get?, OptionMap.put, hput]
      simp [eq_comm]
    · have hput := Entries.get?_put_of_ne hother value map.entries
      simp only [OptionMap.get?, OptionMap.put, hput]
      simp [hother]

theorem nodup_keys (h : Collected pairs map) : map.keys.Nodup :=
  h.order.imp fun hlt heq => absurd hlt (by rw [heq]; exact Nat.lt_irrefl _)

theorem get?_eq_none (h : Collected pairs map) {key : String} (hkey : key ∉ Entries.keys pairs) :
    map.get? key = none :=
  Entries.get?_eq_none_iff.2 fun hm => hkey ((h.mem_keys key).1 hm)

/-- There are as many entries as different keys have come. -/
theorem size_eq (h : Collected pairs map) : map.size = (Entries.keys pairs).toFinset.card := by
  have hsame : map.keys.toFinset = (Entries.keys pairs).toFinset := by
    ext key
    rw [List.mem_toFinset, List.mem_toFinset, h.mem_keys]
  rw [← hsame, List.toFinset_card_of_nodup h.nodup_keys]
  simp [OptionMap.size, OptionMap.keys, Entries.keys]

end Collected

/-! ## Pairs one after the other

Inserting hands back what the key held before, so a sequence of insertions has a list of such values
besides the map. -/

/-- Inserts pairs one after the other: the values that the insertions hand back, and the map after
them. -/
def insertAll : List (String × Value) → OptionMap → List (Option Value) × OptionMap
  | [], map => ([], map)
  | (key, value) :: pairs, map =>
    let (old, next) := map.insert key value
    let (olds, last) := insertAll pairs next
    (old :: olds, last)

theorem insertAll_cons (key : String) (value : Value) (pairs : List (String × Value))
    (map : OptionMap) :
    insertAll ((key, value) :: pairs) map
      = (map.get? key :: (insertAll pairs (map.put key value)).1,
        (insertAll pairs (map.put key value)).2) := by
  rfl

theorem insertAll_append (before pairs : List (String × Value)) (map : OptionMap) :
    insertAll (before ++ pairs) map
      = ((insertAll before map).1 ++ (insertAll pairs (insertAll before map).2).1,
        (insertAll pairs (insertAll before map).2).2) := by
  induction before generalizing map with
  | nil => rfl
  | cons pair before ih =>
    obtain ⟨key, value⟩ := pair
    simp [insertAll_cons, ih]

theorem length_insertAll (pairs : List (String × Value)) (map : OptionMap) :
    (insertAll pairs map).1.length = pairs.length := by
  induction pairs generalizing map with
  | nil => rfl
  | cons pair pairs ih =>
    obtain ⟨key, value⟩ := pair
    simp [insertAll_cons, ih]

/-- An insertion hands back what its key holds after those in front of it. -/
theorem getElem?_insertAll (before : List (String × Value)) (key : String) (value : Value)
    (after : List (String × Value)) (map : OptionMap) :
    (insertAll (before ++ (key, value) :: after) map).1[before.length]?
      = some ((insertAll before map).2.get? key) := by
  rw [insertAll_append, List.getElem?_append_right (by rw [length_insertAll]),
    length_insertAll, Nat.sub_self]
  rfl

/-- The map after some insertions is what its pairs and theirs leave. -/
theorem Collected.insertAll {before : List (String × Value)} {map : OptionMap}
    (h : Collected before map) (pairs : List (String × Value)) :
    Collected (before ++ pairs) (insertAll pairs map).2 := by
  induction pairs generalizing before map with
  | nil => simpa [OptionMap.insertAll] using h
  | cons pair pairs ih =>
    obtain ⟨key, value⟩ := pair
    simpa [insertAll_cons] using ih (h.put key value)

theorem ofList_eq_insertAll (pairs : List (String × Value)) :
    ofList pairs = (insertAll pairs .empty).2 := by
  suffices h : ∀ map : OptionMap,
      pairs.foldl (fun map pair => map.put pair.1 pair.2) map = (insertAll pairs map).2 from h _
  intro map
  induction pairs generalizing map with
  | nil => rfl
  | cons pair pairs ih =>
    obtain ⟨key, value⟩ := pair
    exact ih (map.put key value)

/-- **A map of some pairs holds what they leave.** -/
theorem collected_ofList (pairs : List (String × Value)) : Collected pairs (ofList pairs) := by
  rw [ofList_eq_insertAll]
  exact Collected.empty.insertAll pairs

theorem insertAll_ofList (given inserted : List (String × Value)) :
    (insertAll inserted (ofList given)).2 = ofList (given ++ inserted) := by
  rw [ofList_eq_insertAll, ofList_eq_insertAll, insertAll_append]

theorem ofList_entries (map : OptionMap) : ofList map.entries = map := by
  have hentries := entries_ofList map.nodup
  cases hmap : ofList map.entries
  cases map
  simp_all

theorem sameAs_self (map : OptionMap) : map.sameAs map = true := by
  rw [sameAs, List.zip, List.zipWith_self, List.all_map, beq_self_eq_true, Bool.true_and,
    List.all_eq_true]
  intro entry _
  show (entry.1 == entry.1 && entry.2.sameAs entry.2) = true
  rw [beq_self_eq_true, Value.sameAs_self, Bool.and_self]

end OptionMap

/-! ## Sorted collections

The order of texts is total and transitive, which is all that sorting needs of it. -/

namespace Text

theorem bytes_injective : Function.Injective bytes := by
  intro a b h
  rw [bytes, bytes, String.toUTF8_eq_toByteArray, String.toUTF8_eq_toByteArray] at h
  exact String.toByteArray_inj.1 (ByteArray.ext (Array.toList_inj.1 h))

theorem bytesLe_trans (a b c : String) (hab : bytesLe a b = true) (hbc : bytesLe b c = true) :
    bytesLe a c = true := by
  simp only [bytesLe, decide_eq_true_eq] at hab hbc ⊢
  exact List.le_trans hab hbc

theorem bytesLe_total (a b : String) : (bytesLe a b || bytesLe b a) = true := by
  simp only [bytesLe, Bool.or_eq_true, decide_eq_true_eq]
  exact List.le_total _ _

/-- Different texts in order are strictly in order. -/
theorem lex_of_bytesLe {a b : String} (h : bytesLe a b = true) (hne : a ≠ b) :
    List.Lex (· < ·) (bytes a) (bytes b) := by
  simp only [bytesLe, decide_eq_true_eq] at h
  exact (List.le_iff_lt_or_eq.1 h).resolve_right fun heq => hne (bytes_injective heq)

end Text

namespace OptionMap

/-- The entries of a map sorted by their keys. -/
theorem entries_ofSorted (pairs : List (String × Value)) :
    (ofSorted pairs).entries
      = (ofList pairs).entries.mergeSort fun a b => Text.bytesLe a.1 b.1 := by
  refine entries_ofList ?_
  have hperm := ((ofList pairs).entries.mergeSort_perm fun a b => Text.bytesLe a.1 b.1).map Prod.fst
  exact hperm.nodup_iff.2 (ofList pairs).nodup

/-- A sorted collection gives its keys the same values. -/
theorem get?_ofSorted (pairs : List (String × Value)) (key : String) :
    (ofSorted pairs).get? key = (ofList pairs).get? key := by
  refine Option.ext fun value => ?_
  rw [get?_eq_some_iff_mem, get?_eq_some_iff_mem, entries_ofSorted, List.mem_mergeSort]

theorem pairwise_keys_ofSorted (pairs : List (String × Value)) :
    (ofSorted pairs).keys.Pairwise fun a b => List.Lex (· < ·) (Text.bytes a) (Text.bytes b) := by
  have hsorted : (ofSorted pairs).keys.Pairwise fun a b => Text.bytesLe a b = true := by
    rw [keys, entries_ofSorted, Entries.keys, List.pairwise_map]
    exact List.pairwise_mergeSort (fun a b c => Text.bytesLe_trans a.1 b.1 c.1)
      (fun a b => Text.bytesLe_total a.1 b.1) _
  have hnodup : (ofSorted pairs).keys.Pairwise (· ≠ ·) := (ofSorted pairs).nodup
  exact (hsorted.and hnodup).imp fun h => Text.lex_of_bytesLe h.1 h.2

/-! ## First places and last values -/

/-- **An option map remembers first places and last values.** After pairs have been collected and
more have been inserted, the map holds their keys in the order in which they first came, each once
and with the value of its last pair, which a look-up finds, and nothing else. An insertion hands
back the value that the pairs in front of it left under its key, and moves and changes no entry of
another key. The entries of the map, collected again, give the map; and a sorted collection of the
pairs gives a map with the same values, its keys in the order of their bytes. -/
theorem insertion_ordered (given inserted : List (String × Value)) :
    let (olds, map) := insertAll inserted (ofList given)
    let pairs := given ++ inserted
    (Collected pairs map ∧ map.keys.Nodup)
    ∧ (∀ key value, (key, value) ∈ map.entries ↔ Entries.LastValue pairs key value)
    ∧ (∀ key, key ∉ Entries.keys pairs → map.get? key = none)
    ∧ map.size = (Entries.keys pairs).toFinset.card
    ∧ (∀ before key value after, inserted = before ++ (key, value) :: after →
      let reached := (insertAll before (ofList given)).2
      (∃ old, olds[before.length]? = some old
        ∧ ∀ held, old = some held ↔ Entries.LastValue (given ++ before) key held)
      ∧ ∀ other, other ≠ key → ∀ (i : Nat) (held : Value),
        (reached.insert key value).2.entries[i]? = some (other, held)
          ↔ reached.entries[i]? = some (other, held))
    ∧ (ofList map.entries = map ∧ (ofList map.entries).sameAs map = true)
    ∧ (∀ key, (ofSorted pairs).get? key = map.get? key)
    ∧ (ofSorted pairs).keys.Pairwise fun a b =>
      List.Lex (· < ·) (Text.bytes a) (Text.bytes b) := by
  have hcollected : Collected (given ++ inserted) (insertAll inserted (ofList given)).2 :=
    (collected_ofList given).insertAll inserted
  have hagain := ofList_entries (insertAll inserted (ofList given)).2
  refine ⟨⟨hcollected, hcollected.nodup_keys⟩, ?_, fun key => hcollected.get?_eq_none,
    hcollected.size_eq, ?_, ⟨hagain, ?_⟩, ?_, pairwise_keys_ofSorted _⟩
  · intro key value
    rw [← get?_eq_some_iff_mem, hcollected.get?_iff]
  · intro before key value after hinserted
    -- What an insertion meets is the map of the pairs in front of it.
    have hreached := (collected_ofList given).insertAll before
    refine ⟨⟨_, ?_, hreached.get?_iff key⟩, ?_⟩
    · rw [hinserted]
      exact getElem?_insertAll before key value after _
    · intro other hother i held
      exact Entries.getElem?_put hother value held _ i
  · rw [hagain]
    exact sameAs_self _
  · intro key
    rw [get?_ofSorted, insertAll_ofList]

/-- A key that comes again is handed its old value and keeps its place, with the others where they
were; a new one goes behind them. -/
theorem insertion_ordered_repeated :
    let given : List (String × Value) := [("b", .int 1), ("a", .int 2)]
    let inserted : List (String × Value) := [("b", .int 3), ("c", .text "x")]
    let (olds, map) := insertAll inserted (ofList given)
    olds[0]? = some (some (.int 1)) ∧ olds[1]? = some none
    ∧ map.keys = ["b", "a", "c"] ∧ map.get? "b" = some (.int 3)
    ∧ "a" ≠ "b" ∧ ((ofList given).insert "b" (.int 3)).2.entries[1]? = some ("a", .int 2) := by
  intro given inserted
  obtain ⟨⟨hcollected, -⟩, -, -, -, hinsert, -⟩ := insertion_ordered given inserted
  obtain ⟨⟨old, hold, hlast⟩, hothers⟩ := hinsert [] "b" (.int 3) [("c", .text "x")] rfl
  obtain rfl : old = some (.int 1) := (hlast _).2 ⟨[], [("a", .int 2)], rfl, by decide⟩
  refine ⟨hold, rfl, by decide, ?_, by decide, ?_⟩
  · exact (hcollected.get?_iff _ _).2 ⟨given, [("c", .text "x")], rfl, by decide⟩
  · exact (hothers "a" (by decide) 1 (.int 2)).2 rfl

end OptionMap

end TunnelOptions

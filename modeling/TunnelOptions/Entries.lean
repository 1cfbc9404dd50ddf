/-!
# Entries in order

A list of keys and values that is read as a finite map. Writing a key that is there replaces its
value in place; a new key goes to the end. Option maps are such lists, and so are the tables of a
settings file; the names of a tunnel's options with their aliases are one that is only read.

The list is kept as it is and not turned into a map of the library, because its order is part of
what is promised: options are applied in it, reports list keys in it, and a saved table has it. What
makes the list a map is that no key comes twice. That is a hypothesis of the lemmas that need it,
and `nodup_keys_put` shows that no write breaks it; the types that are built on lists of this kind
carry it as a field.

* `get?`, `put`: the value of a key, and the list after a write.
* `keys_put`, `get?_put_self`, `get?_put_of_ne`, `nodup_keys_put`: what a write does to the keys and
  to later look-ups.
* `put_of_not_mem`, `exists_put_of_mem`, `mem_of_mem_put`: and to the entries.
* `forall_or_first`: items are all of a kind, or there is a first that is not. Whatever stops at the
  first entry that is no good is reasoned about by this split.
-/

set_option autoImplicit false

namespace TunnelOptions.Entries

variable {α : Type}

/-- The keys in order. -/
def keys (entries : List (String × α)) : List String :=
  entries.map Prod.fst

/-- The value of a key. The first entry decides, which matters only for a list in which a key comes
twice. -/
def get? (key : String) : List (String × α) → Option α
  | [] => none
  | (k, a) :: entries => if k = key then some a else get? key entries

/-- The entries after a write: the value of a key that is there is replaced where it stands, and a
new key comes last. -/
def put (key : String) (value : α) : List (String × α) → List (String × α)
  | [] => [(key, value)]
  | (k, a) :: entries =>
    if k = key then (key, value) :: entries else (k, a) :: put key value entries

/-- A key has no value exactly when it is not among the keys. -/
theorem get?_eq_none_iff {key : String} {entries : List (String × α)} :
    get? key entries = none ↔ key ∉ keys entries := by
  induction entries with
  | nil => simp [get?, keys]
  | cons entry entries ih =>
    obtain ⟨k, a⟩ := entry
    by_cases h : k = key
    · simp [get?, keys, h]
    · simpa [get?, keys, h, Ne.symm h] using ih

/-- **A write keeps the keys, and appends a new one.** -/
theorem keys_put (key : String) (value : α) (entries : List (String × α)) :
    keys (put key value entries)
      = if key ∈ keys entries then keys entries else keys entries ++ [key] := by
  induction entries with
  | nil => simp [put, keys]
  | cons entry entries ih =>
    obtain ⟨k, a⟩ := entry
    by_cases h : k = key
    · simp [put, keys, h]
    · simp only [keys] at ih
      by_cases hm : key ∈ entries.map Prod.fst
      · simp [put, keys, h, ih, hm]
      · simp [put, keys, h, ih, hm, Ne.symm h]

theorem get?_put_self (key : String) (value : α) (entries : List (String × α)) :
    get? key (put key value entries) = some value := by
  induction entries with
  | nil => simp [put, get?]
  | cons entry entries ih =>
    obtain ⟨k, a⟩ := entry
    by_cases h : k = key <;> simp [put, get?, h, ih]

theorem get?_put_of_ne {key other : String} (h : other ≠ key) (value : α)
    (entries : List (String × α)) : get? other (put key value entries) = get? other entries := by
  induction entries with
  | nil => simp [put, get?, Ne.symm h]
  | cons entry entries ih =>
    obtain ⟨k, a⟩ := entry
    by_cases hk : k = key
    · simp [put, get?, hk, Ne.symm h]
    · by_cases ho : k = other <;> simp [put, get?, hk, ho, ih, h]

/-- Distinct keys stay distinct. -/
theorem nodup_keys_put {entries : List (String × α)} (h : (keys entries).Nodup) (key : String)
    (value : α) : (keys (put key value entries)).Nodup := by
  rw [keys_put]
  split
  · exact h
  · rename_i hm
    refine List.nodup_append.2 ⟨h, by simp, ?_⟩
    intro a ha b hb hab
    simp only [List.mem_singleton] at hb
    exact hm (hb ▸ hab ▸ ha)

theorem put_of_not_mem {key : String} {entries : List (String × α)} (hkey : key ∉ keys entries)
    (value : α) : put key value entries = entries ++ [(key, value)] := by
  induction entries with
  | nil => rfl
  | cons entry entries ih =>
    obtain ⟨k, a⟩ := entry
    rw [keys, List.map_cons, List.mem_cons, not_or] at hkey
    rw [put, if_neg (Ne.symm hkey.1), ih hkey.2, List.cons_append]

/-- A key that is there keeps its place and gets the new value. -/
theorem exists_put_of_mem {key : String} {entries : List (String × α)} (hkey : key ∈ keys entries)
    (value : α) : ∃ before old after, entries = before ++ (key, old) :: after
      ∧ put key value entries = before ++ (key, value) :: after := by
  induction entries with
  | nil => exact absurd hkey List.not_mem_nil
  | cons entry entries ih =>
    obtain ⟨k, a⟩ := entry
    by_cases hk : k = key
    · exact ⟨[], a, entries, by rw [hk, List.nil_append], by rw [put, if_pos hk, List.nil_append]⟩
    · have hlater : key ∈ keys entries := (List.mem_cons.1 hkey).resolve_left (Ne.symm hk)
      obtain ⟨before, old, after, hsplit, hput⟩ := ih hlater
      refine ⟨(k, a) :: before, old, after, ?_, ?_⟩
      · rw [hsplit, List.cons_append]
      · rw [put, if_neg hk, hput, List.cons_append]

theorem mem_of_mem_put {key : String} {value : α} {entries : List (String × α)} {entry : String × α}
    (h : entry ∈ put key value entries) : entry = (key, value) ∨ entry ∈ entries := by
  induction entries with
  | nil => exact .inl (List.mem_singleton.1 h)
  | cons first entries ih =>
    obtain ⟨k, a⟩ := first
    rw [put] at h
    split at h
    · rcases List.mem_cons.1 h with hnew | hrest
      · exact .inl hnew
      · exact .inr (List.mem_cons_of_mem _ hrest)
    · rcases List.mem_cons.1 h with hfirst | hrest
      · exact .inr (List.mem_cons.2 (.inl hfirst))
      · exact (ih hrest).imp_right (List.mem_cons_of_mem _)

/-- Items are all of a kind, or there is a first that is not. -/
theorem forall_or_first {β : Type} (P : β → Prop) (items : List β) :
    (∀ item ∈ items, P item)
    ∨ ∃ before item after, items = before ++ item :: after ∧ (∀ other ∈ before, P other)
      ∧ ¬ P item := by
  induction items with
  | nil => exact .inl fun item hm => nomatch hm
  | cons item items ih =>
    by_cases h : P item
    · rcases ih with hall | ⟨before, other, after, rfl, hbefore, hother⟩
      · exact .inl (List.forall_mem_cons.2 ⟨h, hall⟩)
      · exact .inr ⟨item :: before, other, after, rfl, List.forall_mem_cons.2 ⟨h, hbefore⟩, hother⟩
    · exact .inr ⟨[], item, items, rfl, fun other hm => (nomatch hm), h⟩

end TunnelOptions.Entries

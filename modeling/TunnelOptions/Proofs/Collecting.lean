import TunnelOptions.Proofs.EntryOrder

/-!
# Collecting pairs first

Pairs can be written one by one, or be collected in an option map first, which is then written. The
map keeps a name that comes again at its first place with its last value, so the two ways write in
different orders and different numbers of times. They come to the same: what a name was given before
is overwritten, and its last value can be moved to its first place past the names in between.

The recursion is that of collecting. One more pair is either put behind the entries of the map so
far, and then there is nothing to show, or it replaces a value in the middle of them. In the second
case the old value and the new one are written to the same place, so the old one may as well be
there; and the new one may be moved to the end, since everything in between goes elsewhere. That
step is `putAll_writesOfEach_put`, and the rest is an induction on the pairs.

It takes both conditions of the theorem. A pair that fails would have stopped the map and not the
others, and its old value would still be there; and two names of one option would make the order of
the entries matter.

* `Tower.putAll_overwrite`: one name written twice.
* `Tower.putAll_writesOfEach_put`: one more pair, collected or written behind the others.
* `Tower.putAll_writesOfEach_collect`: all pairs, by the recursion that collects them.
* `Tower.collecting_agrees_with_writing_each`: both ways come to the same.
-/

set_option autoImplicit false

namespace TunnelOptions

/-! ## What is collected -/

theorem OptionMap.mem_of_mem_collect {pairs : List (String × Value)} {map : OptionMap}
    {entry : String × Value}
    (h : entry ∈ (pairs.foldl (fun map pair => map.put pair.1 pair.2) map).entries) :
    entry ∈ map.entries ∨ entry ∈ pairs := by
  induction pairs generalizing map with
  | nil => exact .inl h
  | cons pair pairs ih =>
    rcases ih h with hput | hpairs
    · rcases Entries.mem_of_mem_put hput with hnew | hold
      · exact .inr (List.mem_cons.2 (.inl hnew))
      · exact .inl hold
    · exact .inr (List.mem_cons_of_mem _ hpairs)

/-- A map holds none but the pairs it was collected from. -/
theorem OptionMap.mem_of_mem_ofList {pairs : List (String × Value)} {entry : String × Value}
    (h : entry ∈ (ofList pairs).entries) : entry ∈ pairs :=
  (mem_of_mem_collect h).resolve_left List.not_mem_nil

namespace Tower

/-! ## One more pair

Writing a name again overwrites the whole of what it was given before, because what a value under a
name writes goes to one place. -/

theorem putAll_writesOfEach_cons (layer : Nat) (name : String) (value : Value)
    (entries : List (String × Value)) (tower : Tower) :
    tower.putAll (writesOfEach layer ((name, value) :: entries))
      = (tower.putAll (resolve layer name value).writes).putAll (writesOfEach layer entries) :=
  putAll_append tower _ _

/-- **A name that is written again leaves nothing of what it was given before.** -/
theorem putAll_overwrite {layer : Nat} {name : String} {value : Value}
    (htaken : ∃ write, resolve (layer + 1) name value = .ok write) (old : Value) (tower : Tower) :
    (tower.putAll (resolve (layer + 1) name old).writes).putAll
        (resolve (layer + 1) name value).writes
      = tower.putAll (resolve (layer + 1) name value).writes := by
  rw [resolve_succ_eq, resolve_succ_eq]
  rw [resolve_succ_eq] at htaken
  cases hkey : OptionKey.ofName? name with
  | none => rfl
  | some key =>
    rw [hkey] at htaken
    obtain ⟨write, hwrite⟩ := htaken
    obtain ⟨last, hlast, -⟩ := exists_of_map_eq_ok hwrite
    dsimp only
    rw [hlast]
    cases hfirst : key.read old with
    | error fault => rfl
    | ok first =>
      have hplace : first.place = last.place :=
        (OptionKey.place_of_read hfirst).trans (OptionKey.place_of_read hlast).symm
      exact put_put hplace tower

/-- **One more pair comes to the same, collected or written behind the others.** -/
theorem putAll_writesOfEach_put {layer : Nat} {name : String} {value : Value}
    {entries : List (String × Value)} (hnodup : (Entries.keys entries).Nodup)
    (honce : Tunnel.Key.NamedOnce (Entries.keys entries))
    (htaken : ∃ write, resolve (layer + 1) name value = .ok write) (tower : Tower) :
    tower.putAll (writesOfEach (layer + 1) (Entries.put name value entries))
      = tower.putAll (writesOfEach (layer + 1) (entries ++ [(name, value)])) := by
  by_cases hname : name ∈ Entries.keys entries
  · obtain ⟨before, old, after, rfl, hput⟩ := Entries.exists_put_of_mem hname value
    -- The new value stands where the old one did, and can be moved past what is behind it.
    have hkeys : Entries.keys (before ++ (name, old) :: after)
        = Entries.keys before ++ Entries.keys ((name, value) :: after) := List.map_append
    have hmoved (reached : Tower) :
        reached.putAll (writesOfEach (layer + 1) ((name, value) :: after))
          = reached.putAll (writesOfEach (layer + 1) (after ++ [(name, value)])) := by
      refine putAll_perm (List.perm_append_singleton _ _).symm ?_ (honce.mono ?_) layer reached
      · exact (List.nodup_append.1 (hkeys ▸ hnodup)).2.1
      · rw [hkeys]
        exact List.subset_append_right _ _
    let reached := tower.putAll (writesOfEach (layer + 1) before)
    let overwritten := reached.putAll (resolve (layer + 1) name old).writes
    calc tower.putAll (writesOfEach (layer + 1) (Entries.put name value
            (before ++ (name, old) :: after)))
        = reached.putAll (writesOfEach (layer + 1) ((name, value) :: after)) := by
          rw [hput, writesOfEach_append, putAll_append]
      _ = overwritten.putAll (writesOfEach (layer + 1) ((name, value) :: after)) := by
          rw [putAll_writesOfEach_cons, putAll_writesOfEach_cons, putAll_overwrite htaken]
      _ = overwritten.putAll (writesOfEach (layer + 1) (after ++ [(name, value)])) :=
          hmoved overwritten
      _ = reached.putAll (writesOfEach (layer + 1) ((name, old) :: (after ++ [(name, value)]))) :=
          (putAll_writesOfEach_cons _ _ _ _ reached).symm
      _ = tower.putAll (writesOfEach (layer + 1)
            ((before ++ (name, old) :: after) ++ [(name, value)])) := by
          rw [List.append_assoc, List.cons_append, writesOfEach_append, putAll_append]
  · rw [Entries.put_of_not_mem hname]

/-! ## All pairs -/

theorem putAll_writesOfEach_collect {layer : Nat} (pairs : List (String × Value))
    (map : OptionMap) (honce : Tunnel.Key.NamedOnce (Entries.keys (map.entries ++ pairs)))
    (htaken : ∀ pair ∈ pairs, ∃ write, resolve (layer + 1) pair.1 pair.2 = .ok write)
    (tower : Tower) :
    tower.putAll (writesOfEach (layer + 1)
        (pairs.foldl (fun map pair => map.put pair.1 pair.2) map).entries)
      = tower.putAll (writesOfEach (layer + 1) (map.entries ++ pairs)) := by
  induction pairs generalizing map with
  | nil => rw [List.foldl_nil, List.append_nil]
  | cons pair pairs ih =>
    obtain ⟨name, value⟩ := pair
    obtain ⟨hfirst, hrest⟩ := List.forall_mem_cons.1 htaken
    have hhere : Tunnel.Key.NamedOnce (Entries.keys map.entries) := by
      refine honce.mono (List.map_subset _ ?_)
      exact List.subset_append_left _ _
    -- The induction goes on with the map that has the pair, so no option may have two names there
    -- either.
    have hlater : Tunnel.Key.NamedOnce (Entries.keys ((map.put name value).entries ++ pairs)) := by
      refine honce.mono (List.map_subset _ fun entry hentry => ?_)
      rcases List.mem_append.1 hentry with hput | hpairs
      · rcases Entries.mem_of_mem_put hput with rfl | hold
        · exact List.mem_append_right _ List.mem_cons_self
        · exact List.mem_append_left _ hold
      · exact List.mem_append_right _ (List.mem_cons_of_mem _ hpairs)
    calc tower.putAll (writesOfEach (layer + 1)
            (pairs.foldl (fun map pair => map.put pair.1 pair.2) (map.put name value)).entries)
        = tower.putAll (writesOfEach (layer + 1) ((map.put name value).entries ++ pairs)) :=
          ih (map.put name value) hlater hrest
      _ = (tower.putAll (writesOfEach (layer + 1) (map.put name value).entries)).putAll
            (writesOfEach (layer + 1) pairs) := by rw [writesOfEach_append, putAll_append]
      _ = (tower.putAll (writesOfEach (layer + 1) (map.entries ++ [(name, value)]))).putAll
            (writesOfEach (layer + 1) pairs) := by
          rw [OptionMap.put, putAll_writesOfEach_put map.nodup hhere hfirst]
      _ = tower.putAll (writesOfEach (layer + 1) (map.entries ++ (name, value) :: pairs)) := by
          rw [← putAll_append, ← writesOfEach_append, List.append_assoc, List.singleton_append]

/-- Pairs written one by one. -/
theorem run_setOption_tower (layer : Nat) (pairs : List (String × Value)) (tower : Tower) :
    (run (pairs.map fun (name, value) => (layer, .setOption name value)) tower).tower
      = tower.putAll (writesOfEach layer pairs) := by
  rw [run_tower, writesOfRun, List.flatMap_map]
  rfl

/-- **Collecting pairs in a map and writing it agrees with writing the pairs one by one**, names
that come again included, as long as no pair by itself fails and no two different names stand for
one option of tunnels. The map is written to its end, and the tower is what the pairs lead to in
their order. -/
theorem collecting_agrees_with_writing_each (layer : Nat) (tower : Tower)
    {pairs : List (String × Value)}
    (htaken : ∀ pair ∈ pairs, ∃ recognized,
      (setOption (layer + 1) pair.1 pair.2 tower).answer = .ok recognized)
    (honce : Tunnel.Key.NamedOnce (Entries.keys pairs)) :
    (setOptions (layer + 1) (.ofList pairs) tower).outcome
      = (.ok (), (run (pairs.map fun (name, value) => (layer + 1, .setOption name value))
        tower).tower) := by
  have hresolved : ∀ pair ∈ pairs, ∃ write, resolve (layer + 1) pair.1 pair.2 = .ok write := by
    intro pair hpair
    obtain ⟨recognized, hanswer⟩ := htaken pair hpair
    rw [setOption_answer] at hanswer
    obtain ⟨write, hwrite, -⟩ := exists_of_map_eq_ok hanswer
    exact ⟨write, hwrite⟩
  have hfaultless : Faultless (verdicts (layer + 1) (OptionMap.ofList pairs).entries) :=
    List.forall_mem_map.2 fun entry hentry =>
      hresolved entry (OptionMap.mem_of_mem_ofList hentry)
  have hcollected := putAll_writesOfEach_collect pairs .empty honce hresolved tower
  rw [setOptions_outcome_of_faultless hfaultless, applyOptions_bestEffort_tower,
    run_setOption_tower]
  exact congrArg (Prod.mk _) hcollected

/-- Pairs in which two names come again, with an alias and a name that nobody knows among them. -/
def repeatedPairs : List (String × Value) :=
  [("serverPath", .text "/a"), ("keepAlive", .bool true), ("bogus", .int 1),
    ("allowSessionCreation", .text "no"), ("serverPath", .text "/b"), ("keepAlive", .text " N "),
    ("trafficClass", .int 16)]

theorem collecting_agrees_with_writing_each_repeated :
    (∀ pair ∈ repeatedPairs, ∃ recognized,
      (setOption 2 pair.1 pair.2 (new 2)).answer = .ok recognized)
    ∧ Tunnel.Key.NamedOnce (Entries.keys repeatedPairs)
    ∧ (setOptions 2 (.ofList repeatedPairs) (new 2)).outcome
      = (.ok (), (run (repeatedPairs.map fun (name, value) => (2, .setOption name value))
        (new 2)).tower) := by
  have htaken : ∀ pair ∈ repeatedPairs, ∃ recognized,
      (setOption 2 pair.1 pair.2 (new 2)).answer = .ok recognized := by
    simp only [repeatedPairs, List.forall_mem_cons]
    exact ⟨⟨true, rfl⟩, ⟨true, rfl⟩, ⟨false, rfl⟩, ⟨true, rfl⟩, ⟨true, rfl⟩, ⟨true, rfl⟩,
      ⟨true, rfl⟩, List.forall_mem_nil _⟩
  have honce : Tunnel.Key.NamedOnce (Entries.keys repeatedPairs) := by decide
  exact ⟨htaken, honce, collecting_agrees_with_writing_each 1 (new 2) htaken honce⟩

end Tower

end TunnelOptions

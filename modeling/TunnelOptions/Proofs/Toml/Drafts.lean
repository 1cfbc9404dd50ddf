import TunnelOptions.Proofs.Toml.Statements

/-!
# Tables made of their statements

The pairs behind a header go to the table of the header one after the other, and the tables around
it stay as they are.

A document is made by adding statement after statement to a draft, each from the outermost table on.
To follow a table while it is filled, the draft is seen as what surrounds the table and the table
itself, and `Draft.Surrounds` says what it takes for that: a change along the path of the header is
a change of the table, and nothing else. With this the pairs of a table are dealt with once, for
every header there can be. Only the two surroundings that the document of settings has are then made
out in particular.

* `Draft.Surrounds`: tables around the one of a header.
* `foldlM_pairs`: the pairs of a table are what it gets.
* `foldlM_statementsOf`: so are its statements, once its header has opened it.
* `Draft.surrounds_inside`, `Draft.surrounds_behind`: a table inside another, and one behind it.
* `Document.read_tables`: a document of a table inside another, and of a table, has these two.
-/

set_option autoImplicit false

namespace TunnelOptions.Toml

/-! ## Leaves

The values of a plain table are not made up of statements of their own, and nothing can be added to
them. -/

/-- A table in the making of which every value is a leaf. -/
def Draft.ofTable (table : Table) : Draft :=
  table.map fun entry => (entry.1, .leaf entry.2)

/-- **Leaves come to the table they were made of.** -/
theorem closeEntries_ofTable (table : Table) : closeEntries (Draft.ofTable table) = table := by
  induction table with
  | nil => rfl
  | cons entry table ih =>
    obtain ⟨key, value⟩ := entry
    rw [Draft.ofTable, List.map_cons, closeEntries, Node.close]
    rw [Draft.ofTable] at ih
    rw [ih]

/-- A new key goes behind the others. -/
theorem Draft.assign_leaf {key : String} {draft : Draft} (hkey : key ∉ Entries.keys draft)
    (value : Value) :
    Draft.assign (.leaf value) [key] draft = some (draft ++ Draft.ofTable [(key, value)]) := by
  rw [Draft.assign, Entries.get?_eq_none_iff.2 hkey]
  rfl

/-! ## The tables around

Every pair is put where the last header leads to, by following the header's parts anew. While the
pairs behind one header are read, the tables on the way to it are there and stay the same, and only
the innermost grows. -/

/-- Whether `plug` puts tables around a table such that `path` leads to it. -/
def Draft.Surrounds (path : List String) (plug : Draft → Draft) : Prop :=
  ∀ (f : Draft → Option Draft) (draft : Draft),
    Draft.change f path (plug draft) = (f draft).map plug

/-- A pair goes to the table of the header in front of it. -/
theorem add_pair {path : List String} {plug : Draft → Draft} (hplug : Draft.Surrounds path plug)
    {key : String} {draft : Draft} (hkey : key ∉ Entries.keys draft) (value : Value) :
    Document.State.add ⟨path, plug draft⟩ (.pair [key] value)
      = some ⟨path, plug (draft ++ Draft.ofTable [(key, value)])⟩ := by
  have hchange : Draft.change (Draft.assign (.leaf value) [key]) path (plug draft)
      = some (plug (draft ++ Draft.ofTable [(key, value)])) := by
    rw [hplug, Draft.assign_leaf hkey, Option.map_some]
  simp only [Document.State.add, hchange, Option.bind_eq_bind, Option.bind_some]

/-- **The pairs behind a header go to its table.** Their keys are distinct, and none is there
already. -/
theorem foldlM_pairs {path : List String} {plug : Draft → Draft}
    (hplug : Draft.Surrounds path plug) (table : Table) (draft : Draft)
    (hnodup : (Entries.keys draft ++ Entries.keys table).Nodup) :
    (table.map fun entry => Statement.pair [entry.1] entry.2).foldlM Document.State.add
        ⟨path, plug draft⟩
      = some ⟨path, plug (draft ++ Draft.ofTable table)⟩ := by
  induction table generalizing draft with
  | nil =>
    rw [Draft.ofTable, List.map_nil, List.map_nil, List.append_nil]
    rfl
  | cons entry table ih =>
    -- The key that has gone to the draft is still apart from those that are to come.
    obtain ⟨key, value⟩ := entry
    have hkey : key ∉ Entries.keys draft := by
      intro hmem
      exact (List.nodup_append.1 hnodup).2.2 key hmem key List.mem_cons_self rfl
    have hkeys : Entries.keys (draft ++ Draft.ofTable [(key, value)]) ++ Entries.keys table
        = Entries.keys draft ++ Entries.keys ((key, value) :: table) := by
      simp [Entries.keys, Draft.ofTable]
    have hrest := ih (draft ++ Draft.ofTable [(key, value)]) (by rw [hkeys]; exact hnodup)
    have hleaves : draft ++ Draft.ofTable [(key, value)] ++ Draft.ofTable table
        = draft ++ Draft.ofTable ((key, value) :: table) := by
      rw [List.append_assoc]
      rfl
    rw [List.map_cons, List.foldlM_cons, add_pair hplug hkey, Option.bind_eq_bind,
      Option.bind_some, hrest, hleaves]

/-- **The statements of a table fill the table that its header opens.** -/
theorem foldlM_statementsOf {path current : List String} {plug : Draft → Draft}
    (hplug : Draft.Surrounds path plug) {before : Draft}
    (hopen : Draft.change (Draft.openTable (path.getLastD "")) path.dropLast before
      = some (plug [])) {table : Table} (hnodup : (Entries.keys table).Nodup) :
    (statementsOf path table).foldlM Document.State.add ⟨current, before⟩
      = some ⟨path, plug (Draft.ofTable table)⟩ := by
  have hheader : Document.State.add ⟨current, before⟩ (.table path) = some ⟨path, plug []⟩ := by
    simp only [Document.State.add, hopen, Option.bind_eq_bind, Option.bind_some]
  have hpairs := foldlM_pairs hplug table [] hnodup
  rw [statementsOf, List.foldlM_cons, hheader, Option.bind_eq_bind, Option.bind_some, hpairs,
    List.nil_append]

/-! ## A document of two tables

The first header names two tables at once, so the outer one is there without having been named for
itself. The second header opens a table behind it. -/

/-- A table inside a table that only its header names. -/
def Draft.inside (outer inner : String) (draft : Draft) : Draft :=
  [(outer, .table .implied [(inner, .table .header draft)])]

theorem Draft.surrounds_inside (outer inner : String) :
    Draft.Surrounds [outer, inner] (Draft.inside outer inner) := by
  intro f draft
  cases hf : f draft with
  | none => simp [Draft.inside, Draft.change, Entries.get?, hf]
  | some after => simp [Draft.inside, Draft.change, Entries.get?, Entries.put, hf]

/-- A table behind something else. -/
def Draft.behind (other : String × Node) (key : String) (draft : Draft) : Draft :=
  [other, (key, .table .header draft)]

theorem Draft.surrounds_behind {other : String × Node} {key : String} (hkey : key ≠ other.1) :
    Draft.Surrounds [key] (Draft.behind other key) := by
  intro f draft
  have hother : other.1 ≠ key := Ne.symm hkey
  cases hf : f draft with
  | none => simp [Draft.behind, Draft.change, Entries.get?, hother, hf]
  | some after => simp [Draft.behind, Draft.change, Entries.get?, Entries.put, hother, hf]

/-- **A document of two plain tables has these tables**, the first inside another one. -/
theorem Document.ofStatements_tables {outer inner key : String} (hkey : key ≠ outer)
    {first second : Table} (hfirst : (Entries.keys first).Nodup)
    (hsecond : (Entries.keys second).Nodup) :
    Document.ofStatements (statementsOf [outer, inner] first ++ statementsOf [key] second)
      = some [(outer, .table [(inner, .table first)]), (key, .table second)] := by
  let channel : String × Node :=
    (outer, .table .implied [(inner, .table .header (Draft.ofTable first))])
  have hopen₁ : Draft.change (Draft.openTable inner) [outer] []
      = some (Draft.inside outer inner []) := rfl
  have hopen₂ : Draft.change (Draft.openTable key) [] [channel]
      = some (Draft.behind channel key []) := by
    rw [Draft.change, Draft.openTable, Entries.get?, if_neg (Ne.symm hkey)]
    rfl
  have hbehind : Draft.Surrounds [key] (Draft.behind channel key) := Draft.surrounds_behind hkey
  have hrun₁ : (statementsOf [outer, inner] first).foldlM State.add {}
      = some ⟨[outer, inner], [channel]⟩ :=
    foldlM_statementsOf (Draft.surrounds_inside outer inner) hopen₁ hfirst
  have hrun₂ : (statementsOf [key] second).foldlM State.add ⟨[outer, inner], [channel]⟩
      = some ⟨[key], Draft.behind channel key (Draft.ofTable second)⟩ :=
    foldlM_statementsOf hbehind hopen₂ hsecond
  have hclose : (Draft.behind channel key (Draft.ofTable second)).close
      = [(outer, .table [(inner, .table first)]), (key, .table second)] := by
    simp only [Draft.close, Draft.behind, channel, closeEntries, Node.close, closeEntries_ofTable]
  rw [ofStatements, List.foldlM_append, hrun₁]
  simp only [Option.bind_eq_bind, Option.bind_some, hrun₂, hclose]

/-- **A document of two plain tables is read as these tables.** -/
theorem Document.read_tables {outer inner key : String} (hkey : key ≠ outer) {first second : Table}
    (hfirst : ∀ entry ∈ first, entry.2.Plain) (hfirstKeys : (Entries.keys first).Nodup)
    (hsecond : ∀ entry ∈ second, entry.2.Plain) (hsecondKeys : (Entries.keys second).Nodup) :
    Document.read (String.ofList (document
        (tableBlocks [outer, inner] first ++ tableBlocks [key] second)))
      = some [(outer, .table [(inner, .table first)]), (key, .table second)] := by
  have hplain₁ := plain_of_mem_statementsOf (List.cons_ne_nil outer [inner])
    (show 2 ≤ Key.maxParts by decide) hfirst
  have hplain₂ := plain_of_mem_statementsOf (List.cons_ne_nil key [])
    (show 1 ≤ Key.maxParts by decide) hsecond
  have hread := readStatements_document hplain₁ hplain₂
  have hmark : ∀ cs, dropMark ('[' :: cs) = '[' :: cs := fun cs => rfl
  have hstart : ∃ cs, document [writeLines (statementsOf [outer, inner] first),
      writeLines (statementsOf [key] second)] = '[' :: cs := ⟨_, rfl⟩
  obtain ⟨cs, hcs⟩ := hstart
  rw [tableBlocks_eq _ hfirst, tableBlocks_eq _ hsecond, List.singleton_append, Document.read,
    String.toList_ofList]
  rw [hcs] at hread ⊢
  simp only [hmark, hread, Option.bind_eq_bind, Option.bind_some]
  exact ofStatements_tables hkey hfirstKeys hsecondKeys

end TunnelOptions.Toml

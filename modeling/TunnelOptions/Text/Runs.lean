/-!
# The separator-free runs of a text

A list that is given as one text is the sequence of its items with separators between them. Which
characters separate is a parameter: what is said here holds for any set of them.

The runs are found from the left, and the recursion looks one character ahead to see whether the run
goes on. So that nobody else has to, there are two lemmas that take a whole gap and a whole run off
the front of a text; with them the runs of any text that is described as runs and gaps in turn are
worked out by going along the description.

* `runs`: the maximal runs of characters that are no separators, in order.
* `runs_gap_append`, `runs_run_append`: separators in front of a text go, and so does a run of it.
-/

set_option autoImplicit false

namespace TunnelOptions.Text

/-- The maximal non-empty runs of characters outside `separator`, in the order of the text. -/
def runs (separator : Char → Bool) : List Char → List (List Char)
  | [] => []
  | c :: cs =>
    if separator c then runs separator cs
    else
      match cs with
      | [] => [[c]]
      | d :: _ =>
        if separator d then [c] :: runs separator cs
        else
          match runs separator cs with
          | [] => [[c]]
          | run :: rest => (c :: run) :: rest

theorem runs_cons_separator {separator : Char → Bool} {c : Char} (h : separator c = true)
    (cs : List Char) : runs separator (c :: cs) = runs separator cs := by
  cases cs <;> simp [runs, h]

/-- Separators in front are passed over. -/
theorem runs_gap_append {separator : Char → Bool} {gap : List Char}
    (h : ∀ c ∈ gap, separator c = true) (cs : List Char) :
    runs separator (gap ++ cs) = runs separator cs := by
  induction gap with
  | nil => rfl
  | cons c gap ih =>
    obtain ⟨hc, hgap⟩ := List.forall_mem_cons.1 h
    rw [List.cons_append, runs_cons_separator hc, ih hgap]

/-- **A run in front is the first**, if it ends where a separator stands or the text ends. -/
theorem runs_run_append {separator : Char → Bool} {run cs : List Char} (hne : run ≠ [])
    (hrun : ∀ c ∈ run, separator c = false) (hcs : ∀ c, cs.head? = some c → separator c = true) :
    runs separator (run ++ cs) = run :: runs separator cs := by
  induction run with
  | nil => exact absurd rfl hne
  | cons c run ih =>
    obtain ⟨hc, hrun⟩ := List.forall_mem_cons.1 hrun
    cases run with
    | nil =>
      cases cs with
      | nil => simp [runs, hc]
      | cons d cs => simp [runs, hc, hcs d rfl]
    | cons d run =>
      have hd : separator d = false := hrun d List.mem_cons_self
      have hrest := ih (List.cons_ne_nil d run) hrun
      rw [List.cons_append] at hrest
      rw [List.cons_append, List.cons_append, runs]
      simp [hc, hd, hrest]

end TunnelOptions.Text

import TunnelOptions.Proofs.Routing

/-!
# Nesting collapses

Writing by name asks the channel below first, so however many tunnels stand on each other it is the
lowest one that takes a tunnel's option. The tunnels above it pass every call by name on, and so one
more of them on top makes no difference.

There are two things to show. That all layers above the socket come to the same is immediate once
calls are lists of writes, because a layer is only asked whether it is the socket's. That one more
tunnel on top makes no difference is about towers: a write that goes to some layer below the top
does the same to the tower with the top and without it. Putting it the other way round, the top can
be put on before a write or after it; `put_under` says so of one write and `putAll_under` of a list.

The same lemma serves the making of a tunnel with options. While its options are written the new
tunnel is the top, and it is taken off when they fail; what they did below it stays.

* `Tower.under`: a tower under one more tunnel.
* `Tower.putAll_under`: writes that do not go to a tunnel on top do not see it.
* `Tower.withOptions_cases`: one more tunnel that is written options to start from.
* `Tower.nesting_collapses`: calls by name on every tunnel come to the same, and go on to do so
  under one more.
-/

set_option autoImplicit false

namespace TunnelOptions.Tower

/-! ## One more tunnel on top

`push` puts a new tunnel on top. For the proofs the top may be any tunnel, since the one that is
taken off again has been written to. -/

/-- The tower under one more tunnel. -/
def under (tower : Tower) (tunnel : Tunnel) : Tower :=
  { tower with tunnels := tower.tunnels ++ [tunnel] }

theorem push_eq_under (tower : Tower) : tower.push = tower.under {} := rfl

@[simp] theorem depth_under (tower : Tower) (tunnel : Tunnel) :
    (tower.under tunnel).depth = tower.depth + 1 := by
  simp [under, depth]

theorem modify_append_of_lt {α : Type} {first second : List α} {index : Nat}
    (h : index < first.length) (f : α → α) :
    (first ++ second).modify index f = first.modify index f ++ second := by
  induction first generalizing index with
  | nil => exact absurd h (Nat.not_lt_zero index)
  | cons a first ih =>
    cases index with
    | zero => rfl
    | succ index =>
      have h : index < first.length := Nat.lt_of_succ_lt_succ h
      rw [List.cons_append, List.modify_succ_cons, ih h, List.modify_succ_cons, List.cons_append]

theorem put_under {tower : Tower} {write : Write} (h : write.layer ≤ tower.depth)
    (tunnel : Tunnel) : (tower.under tunnel).put write = (tower.put write).under tunnel := by
  cases write with
  | socket write => rfl
  | tunnel index write =>
    rw [put, writeTunnel, under, modify_append_of_lt h]
    rfl

theorem putAll_under {tower : Tower} {writes : List Write}
    (h : ∀ write ∈ writes, write.layer ≤ tower.depth) (tunnel : Tunnel) :
    (tower.under tunnel).putAll writes = (tower.putAll writes).under tunnel := by
  induction writes generalizing tower with
  | nil => rfl
  | cons write writes ih =>
    have hlater : ∀ later ∈ writes, later.layer ≤ (tower.put write).depth := by
      intro later hm
      rw [depth_put]
      exact h later (List.mem_cons_of_mem write hm)
    have hput := put_under (h write List.mem_cons_self) tunnel
    calc (tower.under tunnel).putAll (write :: writes)
        = ((tower.under tunnel).put write).putAll writes := rfl
      _ = ((tower.put write).under tunnel).putAll writes := by rw [hput]
      _ = (tower.putAll (write :: writes)).under tunnel := ih hlater

theorem eq_pop_under {tower : Tower} (h : 0 < tower.depth) :
    ∃ top, tower = tower.pop.under top := by
  have hne : tower.tunnels ≠ [] := List.ne_nil_of_length_pos h
  refine ⟨tower.tunnels.getLast hne, ?_⟩
  rw [pop, under, List.dropLast_concat_getLast hne]

/-- **A new tunnel is written its options on top**, and taken away again when they fail. -/
theorem withOptions_cases (options : OptionMap) (tower : Tower) :
    ((setOptions (tower.depth + 1) options tower.push).answer = .ok ()
      ∧ withOptions options tower = setOptions (tower.depth + 1) options tower.push)
    ∨ ∃ fault top, (setOptions (tower.depth + 1) options tower.push).answer = .error fault
      ∧ (withOptions options tower).answer = .error fault
      ∧ (setOptions (tower.depth + 1) options tower.push).tower
        = (withOptions options tower).tower.under top := by
  rw [withOptions]
  cases (setOptions (tower.depth + 1) options tower.push).answer with
  | ok _ => exact .inl ⟨rfl, rfl⟩
  | error fault =>
    have hdepth : 0 < (setOptions (tower.depth + 1) options tower.push).tower.depth := by
      rw [setOptions_tower, depth_putAll, push_eq_under, depth_under]
      exact Nat.succ_pos _
    obtain ⟨top, htop⟩ := eq_pop_under hdepth
    exact .inr ⟨fault, top, rfl, rfl, htop⟩

/-! ## Calls by name

Whatever the layer, a call by name comes to writes of the socket and of the lowest tunnel, and to
the same ones on all layers above the socket. -/

/-- **Nesting collapses.** A call by name on any tunnel has the answer and the effect that it has on
the lowest, and on one more tunnel on top it has those that it had on the top before. -/
theorem nesting_collapses (tower : Tower) (hdepth : 0 < tower.depth) :
    (∀ layer name value,
      (setOption (layer + 1) name value tower).outcome = (setOption 1 name value tower).outcome)
    ∧ (∀ layer options,
      (setOptions (layer + 1) options tower).outcome = (setOptions 1 options tower).outcome)
    ∧ (∀ layer options policy,
      (applyOptions (layer + 1) options policy tower).outcome
        = (applyOptions 1 options policy tower).outcome)
    ∧ (∀ tunnel name value,
      (setOption (tower.depth + 1) name value (tower.under tunnel)).outcome
        = (setOption tower.depth name value tower).outcome.map id (under · tunnel))
    ∧ (∀ tunnel options,
      (setOptions (tower.depth + 1) options (tower.under tunnel)).outcome
        = (setOptions tower.depth options tower).outcome.map id (under · tunnel))
    ∧ (∀ tunnel options policy,
      (applyOptions (tower.depth + 1) options policy (tower.under tunnel)).outcome
        = (applyOptions tower.depth options policy tower).outcome.map id (under · tunnel)) := by
  -- On a tunnel the verdicts do not depend on its layer. The writes go no higher than the lowest
  -- tunnel, so that they pass by a tunnel on top.
  obtain ⟨top, htop⟩ : ∃ top, tower.depth = top + 1 :=
    Nat.exists_eq_succ_of_ne_zero (Nat.ne_of_gt hdepth)
  refine ⟨fun layer name value => ?_, fun layer options => ?_, fun layer options policy => ?_,
    fun tunnel name value => ?_, fun tunnel options => ?_, fun tunnel options policy => ?_⟩
  · rw [setOption_outcome, setOption_outcome, resolve_succ]
  · rw [setOptions_outcome, setOptions_outcome, verdicts_succ]
  · rw [applyOptions_outcome, applyOptions_outcome, verdicts_succ]
  · rw [setOption_outcome, setOption_outcome, resolve_succ, htop, resolve_succ,
      putAll_under fun write hm => Nat.le_trans (layer_le_one_of_mem_writes hm) hdepth]
    rfl
  · rw [setOptions_outcome, setOptions_outcome, verdicts_succ, htop, verdicts_succ,
      putAll_under fun write hm => Nat.le_trans (layer_le_one_of_mem_writesOf hm) hdepth]
    rfl
  · rw [applyOptions_outcome, applyOptions_outcome, verdicts_succ, htop, verdicts_succ,
      putAll_under fun write hm => Nat.le_trans (layer_le_one_of_mem_writesOf hm) hdepth]
    rfl

/-- An alias, first on the top of two tunnels and then on a third one. -/
theorem nesting_collapses_alias :
    0 < (new 2).depth
    ∧ (setOption 2 "allowSessionCreation" (.text " No ") (new 2)).outcome
      = (setOption 1 "allowSessionCreation" (.text " No ") (new 2)).outcome
    ∧ (setOption 3 "allowSessionCreation" (.text " No ") ((new 2).under {})).outcome
      = (setOption 2 "allowSessionCreation" (.text " No ") (new 2)).outcome.map
        id (under · {}) := by
  have hdepth : 0 < (new 2).depth := by decide
  obtain ⟨hlayer, -, -, hunder, -, -⟩ := nesting_collapses (new 2) hdepth
  exact ⟨hdepth, hlayer 1 _ _, hunder {} _ _⟩

end TunnelOptions.Tower

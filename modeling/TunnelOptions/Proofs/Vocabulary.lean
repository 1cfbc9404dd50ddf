import TunnelOptions.Proofs.Routing

/-!
# The names a layer lists are those it knows

What a layer knows is asked in two ways that do not look at each other. A write by name goes down
through the layers to the socket's keys, and comes back up to the table of the lowest tunnel, whose
aliases the socket has never heard of; the listing is put together on the way up, from a tunnel's
table and what the channel below it adds. They agree on every name, on every layer.

Both sides are brought to a form that does not go through the layers. On the one side it is known
from `TunnelOptions.Proofs.Routing` where a name goes, if anywhere. On the other the listing of a
tunnel is its own names and then what it has not listed of those below; since all tunnels have the
same names, and none of them is the socket's, every tunnel lists the same, and the layers are gone
from there, too.

* `Tower.foldl_listed`: what the channel below adds to a listing.
* `Tower.recognizedKeys_nodup`, `Tower.recognizedKeys_succ`: the listing of a layer.
* `Tower.resolve_eq_ok_none_iff`, `Tower.targetOf?_eq_none_iff`: the names that go nowhere, and that
  they are those not listed.
* `Tower.unrecognized_iff_not_listed`: both together.
-/

set_option autoImplicit false

namespace TunnelOptions

theorem Socket.Key.ofName?_eq_none_iff {name : String} : ofName? name = none ↔ name ∉ names := by
  simp [ofName?, names]

namespace Tower

/-! ## The listing of a layer

A tunnel adds the keys below it one by one, each if it is not there yet. As long as these are
distinct, that is the same as adding those that it has not listed itself. -/

/-- **The channel below adds what is not listed yet**, in its own order. -/
theorem foldl_listed (listed : List String) {names : List String} (h : names.Nodup) :
    names.foldl (fun keys key => if key ∈ keys then keys else keys ++ [key]) listed
      = listed ++ names.filter (· ∉ listed) := by
  induction names generalizing listed with
  | nil => simp
  | cons name names ih =>
    obtain ⟨hname, hnames⟩ := List.nodup_cons.1 h
    rw [List.foldl_cons]
    by_cases hlisted : name ∈ listed
    · rw [if_pos hlisted, ih listed hnames]
      simp [hlisted]
    · -- The name is listed from here on, which is no matter to those behind it.
      have hrest : names.filter (· ∉ listed ++ [name]) = names.filter (· ∉ listed) := by
        refine List.filter_congr fun other hother => ?_
        have hne : other ≠ name := fun heq => hname (heq ▸ hother)
        simp [hne]
      rw [if_neg hlisted, ih (listed ++ [name]) hnames, hrest]
      simp [hlisted]

theorem recognizedKeys_nodup (layer : Nat) : (recognizedKeys layer).Nodup := by
  induction layer with
  | zero => exact (by decide : Socket.Key.names.Nodup)
  | succ layer ih =>
    have hown : Tunnel.Key.names.Nodup := by decide
    rw [recognizedKeys, foldl_listed Tunnel.Key.names ih]
    refine List.nodup_append.2 ⟨hown, ih.filter _, fun key hkey other hother heq => ?_⟩
    have hnew := of_decide_eq_true (List.mem_filter.1 hother).2
    exact hnew (heq ▸ hkey)

theorem recognizedKeys_succ_eq (layer : Nat) :
    recognizedKeys (layer + 1)
      = Tunnel.Key.names ++ (recognizedKeys layer).filter (· ∉ Tunnel.Key.names) :=
  foldl_listed Tunnel.Key.names (recognizedKeys_nodup layer)

/-- **All tunnels list the same**: the keys of tunnels, and then those of the socket. -/
theorem recognizedKeys_succ (layer : Nat) :
    recognizedKeys (layer + 1) = Tunnel.Key.names ++ Socket.Key.names := by
  have hsocket : Socket.Key.names.filter (· ∉ Tunnel.Key.names) = Socket.Key.names := by decide
  induction layer with
  | zero => rw [recognizedKeys_succ_eq, recognizedKeys, hsocket]
  | succ layer ih =>
    have hown : Tunnel.Key.names.filter (· ∉ Tunnel.Key.names) = [] := by simp
    rw [recognizedKeys_succ_eq, ih, List.filter_append, hown, hsocket, List.nil_append]

/-! ## Names that go nowhere

Whether a name goes anywhere does not depend on the value. A value that is refused has a name that
is known, so a refusal is not the answer of a layer that does not know the name. -/

theorem resolve_eq_ok_none_iff {layer : Nat} {name : String} {value : Value} :
    resolve layer name value = .ok none ↔ targetOf? layer name = none := by
  have taken {α : Type} (read : Except OptionFault α) (put : α → Write) :
      (read.map fun a => some (put a)) ≠ .ok none := by
    cases read <;> simp [Except.map]
  unfold resolve targetOf?
  cases Socket.Key.ofName? name with
  | some key => exact iff_of_false (taken _ _) (by simp)
  | none =>
    cases layer with
    | zero => exact iff_of_true rfl rfl
    | succ layer =>
      cases Tunnel.Key.ofName? name with
      | some key => exact iff_of_false (taken _ _) (by simp)
      | none => exact iff_of_true rfl rfl

theorem targetOf?_eq_none_iff {layer : Nat} {name : String} :
    targetOf? layer name = none ↔ name ∉ recognizedKeys layer := by
  cases layer with
  | zero =>
    rw [recognizedKeys, ← Socket.Key.ofName?_eq_none_iff, targetOf?]
    cases Socket.Key.ofName? name <;> simp
  | succ layer =>
    rw [recognizedKeys_succ, List.mem_append, not_or, ← Socket.Key.ofName?_eq_none_iff,
      ← Tunnel.Key.ofName?_eq_none_iff, targetOf?]
    cases Socket.Key.ofName? name <;> simp

theorem setOption_answer_eq_false_iff {layer : Nat} {name : String} {value : Value}
    {tower : Tower} :
    (setOption layer name value tower).answer = .ok false
      ↔ resolve layer name value = .ok none := by
  rw [setOption_answer]
  cases resolve layer name value with
  | error fault => simp [Except.map]
  | ok write => cases write <;> simp [Except.map]

/-- **The names a layer lists are those it knows.** A write by name is not recognized exactly when
the name is not listed, whatever the value is and whatever the tower holds; so it fails for listed
names only. No layer lists a name twice. A tunnel lists the names of its table and then what the
channel below it adds, and all tunnels list the same. -/
theorem unrecognized_iff_not_listed (layer : Nat) :
    (∀ name value tower,
      (setOption layer name value tower).answer = .ok false ↔ name ∉ recognizedKeys layer)
    ∧ (recognizedKeys layer).Nodup
    ∧ recognizedKeys (layer + 1)
      = Tunnel.Key.names ++ (recognizedKeys layer).filter (· ∉ Tunnel.Key.names)
    ∧ recognizedKeys (layer + 1) = Tunnel.Key.names ++ Socket.Key.names := by
  refine ⟨fun name value tower => ?_, recognizedKeys_nodup layer, recognizedKeys_succ_eq layer,
    recognizedKeys_succ layer⟩
  rw [setOption_answer_eq_false_iff, resolve_eq_ok_none_iff, targetOf?_eq_none_iff]

end Tower

end TunnelOptions

import Mathlib.Data.List.TakeWhile
import TunnelOptions.Proofs.Naming

/-!
# Lists given as one text

A list of names can be given as one text with separators between the names. What is read from a text
are its runs without separators, and the other way round a list comes back from every text in which
its items stand apart, whatever separators are used and however many of them. An option that wants a
list cannot tell the two apart.

A text in which items stand apart is a structure: the items, each with the separators in front of
it, and the separators behind the last. Its fields say that the items have no separators in them,
that none is empty, and that no two of them touch, so such a text is well formed as soon as it is
there. That its runs are its items is an induction on the parts, which takes a gap and a run off the
text at a time.

The converse is what makes the statement an equivalence, and it needs that every text is such a
text. That is an induction on the length: a text is separators only, or it has a first run, and what
is behind that run is shorter and does not go on with it.

* `Text.Spaced`: runs with separators in front of, between and behind them.
* `Text.Spaced.runs_text`, `Text.Spaced.exists_text`: the runs of such a text, and that every text
  is one.
* `Text.runs_eq_iff`, `readTexts_eq_iff`: the items of a text are those it is put together from.
* `Tower.joined_text_agrees_with_list`: a text and its items come to the same.
-/

set_option autoImplicit false

namespace TunnelOptions

/-! ## Runs and what is between them

All of this is for any set of separators. -/

namespace Text

/-- Gaps and runs one behind the other, and what is behind them. -/
def spread (parts : List (List Char × List Char)) (behind : List Char) : List Char :=
  parts.flatMap (fun (gap, run) => gap ++ run) ++ behind

theorem spread_cons (gap run : List Char) (parts : List (List Char × List Char))
    (behind : List Char) :
    spread ((gap, run) :: parts) behind = gap ++ (run ++ spread parts behind) := by
  rw [spread, List.flatMap_cons, List.append_assoc, List.append_assoc, spread]

/-- Runs of characters that are no separators, with separators around them. The first gap and the
last may be empty, and those between two runs may not. -/
structure Spaced (separator : Char → Bool) where
  /-- Each run with the separators in front of it, in order. -/
  parts : List (List Char × List Char)
  /-- The separators behind the last run. -/
  behind : List Char
  gaps : ∀ part ∈ parts, ∀ c ∈ part.1, separator c = true
  runs : ∀ part ∈ parts, part.2 ≠ [] ∧ ∀ c ∈ part.2, separator c = false
  /-- Two runs do not touch: only the first may have nothing in front of it. -/
  apart : ∀ part ∈ parts.tail, part.1 ≠ []
  gap_behind : ∀ c ∈ behind, separator c = true

namespace Spaced

variable {separator : Char → Bool}

/-- The runs in order. -/
def items (spaced : Spaced separator) : List (List Char) :=
  spaced.parts.map Prod.snd

/-- The runs with the separators restored. -/
def text (spaced : Spaced separator) : List Char :=
  spread spaced.parts spaced.behind

/-- Where all runs have separators in front of them, the text starts with one, if it is not
empty. -/
theorem separator_of_head? {parts : List (List Char × List Char)} {behind : List Char}
    (gaps : ∀ part ∈ parts, ∀ c ∈ part.1, separator c = true)
    (apart : ∀ part ∈ parts, part.1 ≠ []) (gap_behind : ∀ c ∈ behind, separator c = true) {c : Char}
    (h : (spread parts behind).head? = some c) : separator c = true := by
  cases parts with
  | nil => exact gap_behind c (List.mem_of_head? h)
  | cons part parts =>
    obtain ⟨gap, run⟩ := part
    obtain ⟨d, ds, rfl⟩ := List.exists_cons_of_ne_nil (apart _ List.mem_cons_self)
    cases h
    exact gaps _ List.mem_cons_self c List.mem_cons_self

/-- **The runs of a text are those that it has been put together from.** -/
theorem runs_text (spaced : Spaced separator) :
    Text.runs separator spaced.text = spaced.items := by
  obtain ⟨parts, behind, gaps, runs, apart, gap_behind⟩ := spaced
  rw [text, items]
  induction parts with
  | nil =>
    have hbehind := runs_gap_append gap_behind []
    rwa [List.append_nil] at hbehind
  | cons part parts ih =>
    obtain ⟨gap, run⟩ := part
    obtain ⟨hgap, hgaps⟩ := List.forall_mem_cons.1 gaps
    obtain ⟨hrun, hruns⟩ := List.forall_mem_cons.1 runs
    have hrest := ih hgaps hruns fun part hpart => apart part (List.mem_of_mem_tail hpart)
    rw [spread_cons, runs_gap_append hgap,
      runs_run_append hrun.1 hrun.2 fun _ => separator_of_head? hgaps apart gap_behind, hrest]
    rfl

/-- Where the text does not start with a run, all runs have separators in front of them. -/
theorem gap_ne_nil_of_head? (spaced : Spaced separator)
    (hstart : ∀ c, spaced.text.head? = some c → separator c = true) :
    ∀ part ∈ spaced.parts, part.1 ≠ [] := by
  obtain ⟨parts, behind, gaps, runs, apart, gap_behind⟩ := spaced
  cases parts with
  | nil => simp
  | cons part parts =>
    -- With nothing in front of the first run, the text would start with that.
    refine List.forall_mem_cons.2 ⟨fun hnil => ?_, apart⟩
    obtain ⟨gap, run⟩ := part
    obtain ⟨hne, hfree⟩ := runs _ List.mem_cons_self
    obtain ⟨d, ds, rfl⟩ := List.exists_cons_of_ne_nil hne
    subst hnil
    have hseparator : separator d = true := hstart d rfl
    rw [hfree d List.mem_cons_self] at hseparator
    cases hseparator

/-- What is left behind the characters of a kind does not start with another of them. -/
theorem of_head?_dropWhile {p : Char → Bool} {cs : List Char} {c : Char}
    (h : (cs.dropWhile p).head? = some c) : p c = false := by
  have hnot := List.head?_dropWhile_not p cs
  rw [h] at hnot
  simpa using hnot

/-- A text is all separators, or there is a first run in it. -/
theorem separators_or_run (separator : Char → Bool) (cs : List Char) :
    (∀ c ∈ cs, separator c = true)
    ∨ ∃ gap run rest, cs = gap ++ (run ++ rest) ∧ (∀ c ∈ gap, separator c = true) ∧ run ≠ []
      ∧ (∀ c ∈ run, separator c = false) ∧ ∀ c, rest.head? = some c → separator c = true := by
  by_cases hnil : cs.dropWhile separator = []
  · exact .inl (List.dropWhile_eq_nil_iff.1 hnil)
  · obtain ⟨d, ds, hd⟩ := List.exists_cons_of_ne_nil hnil
    have hfirst : separator d = false := of_head?_dropWhile (congrArg List.head? hd)
    refine .inr ⟨cs.takeWhile separator, (d :: ds).takeWhile (!separator ·),
      (d :: ds).dropWhile (!separator ·), ?_, fun c hc => List.mem_takeWhile_imp hc, ?_,
      fun c hc => ?_, fun c hc => ?_⟩
    · rw [List.takeWhile_append_dropWhile, ← hd, List.takeWhile_append_dropWhile]
    · rw [List.takeWhile_cons, hfirst]
      exact List.cons_ne_nil d _
    · simpa using List.mem_takeWhile_imp hc
    · simpa using of_head?_dropWhile hc

/-- **Every text is put together from runs.** -/
theorem exists_text (cs : List Char) : ∃ spaced : Spaced separator, spaced.text = cs := by
  -- The induction is on the length: what is behind the first run is shorter than the text.
  induction hlength : cs.length using Nat.strongRecOn generalizing cs with
  | ind n ih =>
    rcases separators_or_run separator cs with
      hall | ⟨gap, run, rest, rfl, hgap, hne, hrun, hstart⟩
    · exact ⟨{ parts := [], behind := cs, gaps := by simp, runs := by simp, apart := by simp
               gap_behind := hall }, rfl⟩
    · have hpos : 0 < run.length := List.length_pos_iff.2 hne
      have hshorter : rest.length < n := by
        rw [← hlength, List.length_append, List.length_append]
        omega
      obtain ⟨spaced, rfl⟩ := ih rest.length hshorter rest rfl
      exact ⟨{ parts := (gap, run) :: spaced.parts
               behind := spaced.behind
               gaps := List.forall_mem_cons.2 ⟨hgap, spaced.gaps⟩
               runs := List.forall_mem_cons.2 ⟨⟨hne, hrun⟩, spaced.runs⟩
               apart := spaced.gap_ne_nil_of_head? hstart
               gap_behind := spaced.gap_behind }, spread_cons gap run spaced.parts spaced.behind⟩

end Spaced

/-- **The runs of a text are what there is between its separators.** -/
theorem runs_eq_iff {separator : Char → Bool} {cs : List Char} {items : List (List Char)} :
    runs separator cs = items
      ↔ ∃ spaced : Spaced separator, spaced.text = cs ∧ spaced.items = items := by
  constructor
  · rintro rfl
    obtain ⟨spaced, rfl⟩ := @Spaced.exists_text separator cs
    exact ⟨spaced, rfl, spaced.runs_text.symm⟩
  · rintro ⟨spaced, rfl, rfl⟩
    exact spaced.runs_text

end Text

/-! ## Texts as values

Only here are the separators those of a list, and the characters put together to strings. -/

/-- A text in which names stand apart. -/
abbrev ListText := Text.Spaced isListSeparator

namespace ListText

/-- The text. -/
def joined (list : ListText) : String :=
  String.ofList list.text

/-- The names. -/
def names (list : ListText) : List String :=
  list.items.map String.ofList

end ListText

theorem readTexts_eq_iff {text : String} {names : List String} :
    readTexts text = names ↔ ∃ list : ListText, list.joined = text ∧ list.names = names := by
  constructor
  · rintro rfl
    obtain ⟨list, htext, hitems⟩ :=
      Text.runs_eq_iff.1 (@rfl _ (Text.runs isListSeparator text.toList))
    refine ⟨list, ?_, ?_⟩
    · rw [ListText.joined, htext, String.ofList_toList]
    · rw [ListText.names, hitems, readTexts]
  · rintro ⟨list, rfl, rfl⟩
    rw [readTexts, ListText.joined, String.toList_ofList, list.runs_text, ListText.names]

/-- **A text in which names stand apart is read as the list of them.** -/
theorem ListText.asTexts_joined (list : ListText) :
    (Value.text list.joined).asTexts = (Value.texts list.names).asTexts :=
  congrArg (fun names => Except.ok (some names)) (readTexts_eq_iff.2 ⟨list, rfl, rfl⟩)

namespace Tower

/-- A tunnel cannot tell a text from the list of its names under an option that wants a list. -/
theorem resolve_joined {name : String} {key : Tunnel.Key}
    (hname : Tunnel.Key.ofName? name = some key)
    (hkey : key = .enabledSslCipherSuites ∨ key = .enabledSslProtocols) (layer : Nat)
    (list : ListText) :
    resolve (layer + 1) name (.text list.joined)
      = resolve (layer + 1) name (.texts list.names) := by
  have hread : key.read (.text list.joined) = key.read (.texts list.names) := by
    rcases hkey with rfl | rfl <;> rw [Tunnel.Key.read, list.asTexts_joined, Tunnel.Key.read]
  rw [resolve_succ_eq, resolve_succ_eq, OptionKey.ofName?_eq_tunnel_iff.2 hname]
  dsimp only [OptionKey.read]
  rw [hread]

/-- **A list given as one text is what stands between its separators.** Every text is read as a
list, and it is read as some names exactly when it is put together from them, each of them without
separators and not empty, with separators between any two and perhaps in front and behind. Under
the names of the options that want lists, every tunnel answers such a text as it answers the list
of the names, and leaves the same tower, whose tunnels make the same of their TLS connections. -/
theorem joined_text_agrees_with_list (layer : Nat) (tower : Tower) :
    (∀ text, ∃ names, (Value.text text).asTexts = .ok (some names))
    ∧ (∀ text names, (Value.text text).asTexts = .ok (some names)
      ↔ ∃ list : ListText, list.joined = text ∧ list.names = names)
    ∧ ∀ (list : ListText) (name : String) (key : Tunnel.Key),
      Tunnel.Key.ofName? name = some key →
      key = .enabledSslCipherSuites ∨ key = .enabledSslProtocols →
      let byText := setOption (layer + 1) name (.text list.joined) tower
      let byList := setOption (layer + 1) name (.texts list.names) tower
      byText.outcome = byList.outcome ∧ byText.answer = .ok true
      ∧ ∀ other, (byText.tower.tunnelAt? other).map Tunnel.tlsSettings
        = (byList.tower.tunnelAt? other).map Tunnel.tlsSettings := by
  refine ⟨fun text => ⟨readTexts text, rfl⟩, fun text names => ?_,
    fun list name key hname hkey => ?_⟩
  · rw [← readTexts_eq_iff, Value.asTexts, Except.ok.injEq, Option.some_inj]
  · have hverdict := resolve_joined hname hkey layer list
    refine ⟨?_, ?_, fun other => ?_⟩
    · rw [setOption_outcome, hverdict, setOption_outcome]
    · rw [setOption_answer, hverdict, resolve_succ_eq, OptionKey.ofName?_eq_tunnel_iff.2 hname]
      rcases hkey with rfl | rfl <;> rfl
    · rw [setOption_tower, hverdict, setOption_tower]

/-- Two versions of which one is not known, with separators of four kinds. -/
def scatteredVersions : ListText where
  parts :=
    [([' '], ['T', 'L', 'S', 'v', '1', '.', '3']), ([',', '\x1b'], ['S', 'S', 'L', 'v', '3'])]
  behind := ['\x07']
  gaps := by simp [isListSeparator]
  runs := by simp [isListSeparator]
  apart := by simp
  gap_behind := by simp [isListSeparator]

/-- The text and the list are taken on the second tunnel, and the lowest then refuses to connect
for the same reason. -/
theorem joined_text_agrees_with_list_scattered :
    let tower := (new 2).writeTunnel 1 (.sslContext (some (.withPublicRoots "c")))
    let byText := setOption 2 "enabledProtocols" (.text scatteredVersions.joined) tower
    let byList := setOption 2 "enabledProtocols" (.texts scatteredVersions.names) tower
    scatteredVersions.joined = " TLSv1.3,\x1bSSLv3\x07"
    ∧ scatteredVersions.names = ["TLSv1.3", "SSLv3"]
    ∧ Tunnel.Key.ofName? "enabledProtocols" = some .enabledSslProtocols
    ∧ byText.outcome = byList.outcome
    ∧ (byText.tower.tunnelAt? 1).map Tunnel.tlsSettings
      = (byList.tower.tunnelAt? 1).map Tunnel.tlsSettings
    ∧ (byList.tower.tunnelAt? 1).map Tunnel.tlsSettings
      = some (.error (.unknownVersion "SSLv3")) := by
  intro tower byText byList
  obtain ⟨-, -, hagree⟩ := joined_text_agrees_with_list 1 tower
  obtain ⟨houtcome, -, hsettings⟩ := hagree scatteredVersions "enabledProtocols"
    .enabledSslProtocols rfl (.inr rfl)
  exact ⟨rfl, rfl, rfl, houtcome, hsettings 1, rfl⟩

end Tower

end TunnelOptions

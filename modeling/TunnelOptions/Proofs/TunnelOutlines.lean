import TunnelOptions.Proofs.Outlines
import TunnelOptions.Tunnel

/-!
# The text of a tunnel tells its settings

Whether a tunnel was changed can be seen from its text: two tunnels are shown by the same text only
if they have the same settings, whatever their names, paths and lists hold. A text that imitates a
field or the end of an item does so inside quotes, where it is escaped. Contexts are shown by their
trust anchors and by their protocols as text, so this is what can be told of them.

The way from the text to the settings has two steps. The text tells the outline, in either layout
and for any outline of words and quoted texts, which the outline of a tunnel is. And the outline
tells the settings, field by field, because each of the fields is put into it by a function that
keeps different values apart. Only the second step knows what a tunnel is, and only it has to be
looked at again when a tunnel gets another field.

* `Tls.Context.ShownAlike`, `Tunnel.ShownAlike`: contexts and tunnels with the same settings, as far
  as they are shown.
* `Tunnel.legible_outline`: the outline of a tunnel is made of words and quoted texts.
* `Tls.Context.outline_eq_iff`, `Tunnel.outline_eq_iff`: the outline tells the settings.
* `Tunnel.shown_texts_tell_settings`: so does its text, in both layouts.
-/

set_option autoImplicit false

namespace TunnelOptions

namespace Tls.Context

/-- Contexts with as many trust anchors and with protocols that are the same as text. -/
structure ShownAlike (a b : Context) : Prop where
  roots : a.roots = b.roots
  alpn : a.alpn.map Text.decodeLossy = b.alpn.map Text.decodeLossy

theorem legible_outline (context : Context) : context.outline.Legible := by
  refine .record (List.all_eq_true.1 rfl) ?_ ?_ <;>
    simp only [List.forall_mem_cons, List.not_mem_nil, false_implies, implies_true, and_true]
  · exact ⟨rfl, rfl⟩
  · exact ⟨Outline.legible_int _, Outline.legible_texts _⟩

theorem outline_eq_iff {a b : Context} : a.outline = b.outline ↔ ShownAlike a b := by
  have hroots : Outline.int a.roots = Outline.int b.roots ↔ a.roots = b.roots := by
    rw [Outline.int_injective.eq_iff, Int.natCast_inj]
  have hfields : a.outline = b.outline
      ↔ a.roots = b.roots ∧ a.alpn.map Text.decodeLossy = b.alpn.map Text.decodeLossy := by
    simp [outline, hroots, Outline.texts_injective.eq_iff]
  rw [hfields]
  exact ⟨fun ⟨hroots, halpn⟩ => ⟨hroots, halpn⟩, fun h => ⟨h.roots, h.alpn⟩⟩

theorem map_outline_eq_iff {a b : Option Context} :
    a.map outline = b.map outline ↔ Option.Rel ShownAlike a b := by
  cases a <;> cases b <;> simp [outline_eq_iff]

end Tls.Context

namespace Tunnel

/-- Tunnels with the same settings, the contexts as far as they are shown. -/
structure ShownAlike (a b : Tunnel) : Prop where
  serverName : a.serverName = b.serverName
  serverPath : a.serverPath = b.serverPath
  sslContext : Option.Rel Tls.Context.ShownAlike a.sslContext b.sslContext
  enabledSslCipherSuites : a.enabledSslCipherSuites = b.enabledSslCipherSuites
  enabledSslProtocols : a.enabledSslProtocols = b.enabledSslProtocols
  enableSslSessionCreation : a.enableSslSessionCreation = b.enableSslSessionCreation

theorem legible_outline (tunnel : Tunnel) : tunnel.outline.Legible := by
  have hoption {α : Type} {f : α → Outline} (hf : ∀ x, (f x).Legible) (o : Option α) :
      (Outline.option (o.map f)).Legible := by
    refine Outline.legible_option fun a ha => ?_
    obtain ⟨x, -, rfl⟩ := Option.map_eq_some_iff.1 ha
    exact hf x
  refine .record (List.all_eq_true.1 rfl) ?_ ?_ <;>
    simp only [List.forall_mem_cons, List.not_mem_nil, false_implies, implies_true, and_true]
  · exact ⟨rfl, rfl, rfl, rfl, rfl, rfl⟩
  · exact ⟨hoption .text _, .text _, hoption Tls.Context.legible_outline _,
      hoption Outline.legible_texts _, hoption Outline.legible_texts _, Outline.legible_bool _⟩

theorem outline_eq_iff {a b : Tunnel} : a.outline = b.outline ↔ ShownAlike a b := by
  have hfields : a.outline = b.outline
      ↔ a.serverName = b.serverName ∧ a.serverPath = b.serverPath
        ∧ Option.Rel Tls.Context.ShownAlike a.sslContext b.sslContext
        ∧ a.enabledSslCipherSuites = b.enabledSslCipherSuites
        ∧ a.enabledSslProtocols = b.enabledSslProtocols
        ∧ a.enableSslSessionCreation = b.enableSslSessionCreation := by
    simp [outline, Outline.option_injective.eq_iff, Outline.text_injective.eq_iff,
      Outline.bool_injective.eq_iff, Tls.Context.map_outline_eq_iff,
      (Option.map_injective Outline.text_injective).eq_iff,
      (Option.map_injective Outline.texts_injective).eq_iff]
  rw [hfields]
  exact ⟨fun ⟨hname, hpath, hcontext, hsuites, hprotocols, hsession⟩ =>
      ⟨hname, hpath, hcontext, hsuites, hprotocols, hsession⟩,
    fun h => ⟨h.serverName, h.serverPath, h.sslContext, h.enabledSslCipherSuites,
      h.enabledSslProtocols, h.enableSslSessionCreation⟩⟩

/-- **The text of a tunnel tells its settings.** In either layout, two tunnels are shown by the same
text exactly when they have the same settings, up to what is not shown of a context. -/
theorem shown_texts_tell_settings (a b : Tunnel) :
    (a.outline.inline = b.outline.inline ↔ ShownAlike a b)
    ∧ (a.outline.indented = b.outline.indented ↔ ShownAlike a b) := by
  have htold (L : Outline.Layout) :
      L.write 0 a.outline = L.write 0 b.outline ↔ a.outline = b.outline := by
    refine ⟨fun h => ?_, fun h => by rw [h]⟩
    have happend : L.write 0 a.outline ++ [] = L.write 0 b.outline ++ [] := by rw [h]
    have hnil : Outline.Ends [] := rfl
    exact (L.write_append_inj a.legible_outline b.legible_outline hnil hnil happend).1
  rw [← outline_eq_iff]
  exact ⟨htold .oneLine, htold .itemLines⟩

end Tunnel

end TunnelOptions

/-
What is compiled from a template. Its segments write the template again and are the only sound ones that do, and the
variables of every path that is read are those of its slots, each once (`Endpoint.compile?_lossless`).
-/
import CodeAddress.Proofs.Route.Grammar
import CodeAddress.Proofs.Route.Rebuild

namespace CodeAddress.Endpoint

variable {route : Route} {method template : Text} {e : Endpoint}

/-- The segments of a compiled template write it again. A literal has text and holds no slot, and no two stand next to
each other; so these segments are the only ones that write the template and miss no slot. The names of the slots are
distinct, and they are the variables of every path that is read. -/
theorem compile?_lossless (h : compile? route method template = some e) :
    Template.text e.segments = template ∧
    (∀ t, .literal t ∈ e.segments → t ≠ [] ∧ ¬ Template.HoldsSlot t) ∧
    (∀ t u, ¬ [.literal t, .literal u] <:+: e.segments) ∧
    (∀ segs, Template.text segs = template → Template.Sound segs → segs = e.segments) ∧
    e.names.Nodup ∧ ∀ (path : Text) v, e.read? path = some v → v.map Prod.fst = e.names := by
  obtain ⟨hnamed, rfl⟩ := compile?_eq_some_iff.1 h
  obtain ⟨htext, hsound⟩ := Template.segments_eq_iff.1 (rfl : Template.segments template = _)
  refine ⟨htext, fun t => hsound.of_mem, fun t u => hsound.not_adjacent, fun segs ht hs => ?_,
    Template.nodup_names_of_wellNamed hnamed, fun path v => map_fst_of_read?⟩
  exact (Template.segments_eq_iff.2 ⟨ht, hs⟩).symm

/-- The template `{{a}b}{/c}{@d`: two slots among braces that begin none. -/
def braces : Endpoint where
  route := .repo
  method := "GET"
  template := "\x7b\x7ba\x7db\x7d\x7b/c\x7d\x7b@d"
  segments := [.literal "\x7b", .slot { name := "a" }, .literal "b\x7d", .slot { name := "c", lead := some '/' },
    .literal "\x7b@d"]

/-- Braces that are doubled, that close nothing or are not closed are literal text. -/
theorem compile?_lossless_braces :
    compile? .repo "GET" braces.template = some braces ∧ Template.text braces.segments = braces.template ∧
    ¬ Template.HoldsSlot "b\x7d" ∧ braces.names = ["a".toList, "c".toList] ∧
    ∃ v, braces.read? ("\x7b%41b\x7d\x7b@d" : Text) = some v ∧ v.map Prod.fst = braces.names := by
  have hcompile : compile? .repo "GET" braces.template = some braces := by decide +kernel
  have hread : braces.read? ("\x7b%41b\x7d\x7b@d" : Text) = some [("a".toList, "A".toList), ("c".toList, [])] := by
    decide +kernel
  obtain ⟨htext, hliteral, -, -, -, hkeys⟩ := compile?_lossless hcompile
  exact ⟨hcompile, htext, (hliteral "b\x7d" (by decide)).2, rfl, _, hread, hkeys _ _ hread⟩

end CodeAddress.Endpoint

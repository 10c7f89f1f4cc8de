/-
Paths built again from what they were read as. The variables that a path gives fill its template again, unless the value
of one of them reads as the separator once it is decoded (`Route.Clashes`) or is no text. The path that is built may be
spelled otherwise than the one that was read, but it is found as the same endpoint with the same variables, so building
again changes nothing more. A path with a surrogate gives a value that is no text, so it is found but never built again
(`Router.path_of_find`).
-/
import CodeAddress.Proofs.Route.Letters

namespace CodeAddress

open Endpoint

/-! ## What is read -/

namespace Route

variable {α : Type} [Letter α]

/-- A variable, other than a unit type, whose value reads as the separator in front of a slash. -/
def Clashes (q : Text × List α) : Prop :=
  q.1 ≠ Var.unitType ∧ Letter.ofText separator <:+: q.2 ++ [Letter.ofChar '/']

instance [DecidableEq α] (q : Text × List α) : Decidable (Clashes q) :=
  inferInstanceAs (Decidable (q.1 ≠ Var.unitType ∧ Letter.ofText separator <:+: q.2 ++ [Letter.ofChar '/']))

theorem clashes_ofText_iff [Letter.Lawful α] {n t : Text} :
    Clashes (n, (Letter.ofText t : List α)) ↔ Text.holds separator (quoteValue n t ++ ['/']) = true := by
  have hinfix : (Letter.ofText separator : List α) <:+: Letter.ofText t ++ [Letter.ofChar '/'] ↔
      separator <:+: t ++ ['/'] := by
    have happend : (Letter.ofText t : List α) ++ [Letter.ofChar '/'] = (t ++ ['/']).map Letter.ofChar := by
      rw [Letter.ofText_eq_map, List.map_append, List.map_singleton]
    rw [happend, Letter.ofText_eq_map, List.infix_map_iff]
    constructor
    · rintro ⟨s, hs, heq⟩
      rwa [List.map_injective_iff.2 Letter.Lawful.ofChar_injective heq]
    · exact fun h => ⟨_, h, rfl⟩
  rw [holds_separator_quoteValue_iff, Text.holds_iff (by decide), Clashes, hinfix]

end Route

namespace Endpoint

section Letters

variable {α : Type} [DecidableEq α] [Letter α] {e : Endpoint} {p : List α} {v : Vars α} {slot : Slot}

/-- The variables are those of the template. -/
theorem map_fst_of_read? (h : e.read? p = some v) : v.map Prod.fst = e.names := by
  obtain ⟨values, hcut, rfl⟩ := Route.exists_cut_of_read? h
  rw [List.map_map]
  exact hcut.map_fst

theorem mem_names_iff {n : Text} : n ∈ e.names ↔ ∃ slot, .slot slot ∈ e.segments ∧ slot.name = n := by
  rw [names, Template.names, List.mem_filterMap]
  constructor
  · rintro ⟨seg, hseg, hn⟩
    cases seg with
    | literal t => cases hn
    | slot slot => exact ⟨slot, hseg, Option.some.inj hn⟩
  · rintro ⟨slot, hs, rfl⟩
    exact ⟨_, hs, rfl⟩

variable [Letter.Lawful α]

/-- Only a slot that may be left out is read as empty. -/
theorem optional_of_read? (hn : e.names.Nodup) (h : e.read? p = some v) (hs : .slot slot ∈ e.segments)
    (hv : v.get slot.name = []) : slot.optional = true := by
  have hkeys := map_fst_of_read? h
  obtain ⟨values, hcut, rfl⟩ := Route.exists_cut_of_read? h
  obtain ⟨value, hmem, hvalue⟩ := hcut.exists_of_slot hs
  apply hvalue
  rw [← Letter.Lawful.unquote_eq_nil_iff, ← hv]
  exact (Vars.get_of_mem (hkeys ▸ hn) (List.mem_map_of_mem (f := fun q => (q.1, Letter.unquote q.2)) hmem)).symm

/-- Where the variables of a path do not fill its template, the error names one that is no text or clashes. -/
theorem exists_of_fill_eq_error (hn : e.names.Nodup) (h : e.read? p = some v) {err : EncodeError}
    (herr : e.fill v = .error err) :
    ∃ q ∈ v, (∃ fault, Letter.text q.2 = .error fault ∧ err = .surrogates fault) ∨
      Route.Clashes q ∧ ∃ value, q.2 = Letter.ofText value ∧ err = .separatorInValue q.1 value := by
  have hkeys := map_fst_of_read? h
  obtain ⟨seg, hseg, herr⟩ := exists_of_fillSegments_eq_error herr
  cases seg with
  | literal t => cases herr
  | slot slot =>
    have hmem : slot.name ∈ v.map Prod.fst := by
      rw [hkeys]
      exact mem_names_iff.2 ⟨slot, hseg, rfl⟩
    refine ⟨_, Vars.mk_get_mem (hkeys ▸ hn) hmem, ?_⟩
    rw [fillSegment] at herr
    dsimp only at herr
    split at herr
    · next hv =>
      rw [if_pos (optional_of_read? hn h hseg hv)] at herr
      cases herr
    split at herr
    · next fault hfault =>
      cases herr
      exact .inl ⟨fault, hfault, rfl⟩
    next value hvalue =>
    have htext := (Letter.Lawful.text_eq_ok_iff _ _).1 hvalue
    split at herr
    · next hholds =>
      cases herr
      rw [htext]
      exact .inr ⟨Route.clashes_ofText_iff.2 hholds, value, rfl, rfl⟩
    · cases herr

end Letters

variable {e : Endpoint} {p : Text} {v : Vars}

/-- The variables of a path that is a text fill the template again exactly if none of them clashes. -/
theorem fillable_iff (hn : e.names.Nodup) (h : e.read? p = some v) :
    (∀ seg ∈ e.segments, Fillable v seg) ↔ ¬ ∃ q ∈ v, Route.Clashes q := by
  have hkeys := map_fst_of_read? h
  constructor
  · rintro hf ⟨⟨n, t⟩, hq, hclash⟩
    obtain ⟨slot, hs, rfl⟩ := mem_names_iff.1 (hkeys ▸ List.mem_map_of_mem (f := Prod.fst) hq)
    have hfill := (hf _ hs).2
    rw [Vars.get_of_mem (hkeys ▸ hn) hq, Route.clashes_ofText_iff.1 hclash] at hfill
    cases hfill
  · intro hno seg hseg
    cases seg with
    | literal t => exact trivial
    | slot slot =>
      refine ⟨optional_of_read? hn h hseg, Bool.eq_false_iff.2 fun hholds => hno ?_⟩
      refine ⟨(slot.name, v.get slot.name), Vars.mk_get_mem (hkeys ▸ hn) ?_, Route.clashes_ofText_iff.2 hholds⟩
      rw [hkeys]
      exact mem_names_iff.2 ⟨slot, hseg, rfl⟩

end Endpoint

/-! ## Texts -/

namespace Router

variable {method : Text} {e : Endpoint}

theorem nodup_names (r : Route) : r.endpoint.names.Nodup := Template.nodup_names_of_wellNamed (Route.wellNamed_shape r)

section Texts

variable {p p' : Text} {v : Vars}

/-- The variables of a text give a path exactly if none of them clashes. -/
theorem exists_path_iff (h : standard.find p method = .ok (e, v)) :
    (∃ p', standard.path e.route v = .ok p') ↔ ¬ ∃ q ∈ v, Route.Clashes q := by
  obtain ⟨r, rfl, -, hread, -⟩ := find_standard_eq_ok_iff.1 h
  rw [← fillable_iff (nodup_names r) hread]
  constructor
  · rintro ⟨p', hp'⟩
    exact (fillSegments_eq_ok_iff.1 (path_standard_eq_ok_iff.1 hp')).1
  · exact fun hf => ⟨_, path_standard_eq_ok_iff.2 (fillSegments_eq_ok_iff.2 ⟨hf, rfl⟩)⟩

/-- The path that they give is found as they were. -/
theorem find_of_path (h : standard.find p method = .ok (e, v)) (hp' : standard.path e.route v = .ok p') :
    standard.find p' method = .ok (e, v) := by
  obtain ⟨r, rfl, rfl, hread, hless⟩ := find_standard_eq_ok_iff.1 h
  have hkeys := map_fst_of_read? hread
  have hfill : r.endpoint.fill v = .ok p' := path_standard_eq_ok_iff.1 hp'
  rw [find_fill hfill hless, ← hkeys, Vars.map_get (hkeys ▸ nodup_names r)]

end Texts

/-! ## Rows of code points -/

section Points

variable {p : List CodePoint} {v : Vars CodePoint}

theorem exists_clashes_points_iff {u : Vars} : (∃ q ∈ u.points, Route.Clashes q) ↔ ∃ q ∈ u, Route.Clashes q := by
  have hclash (q : Text × Text) : Route.Clashes (q.1, q.2.map CodePoint.char) ↔ Route.Clashes q := by
    rw [← Letter.ofText_codePoint, Route.clashes_ofText_iff]
    exact Route.clashes_ofText_iff.symm
  constructor
  · rintro ⟨_, hmem, h⟩
    obtain ⟨q, hq, rfl⟩ := List.mem_map.1 hmem
    exact ⟨q, hq, (hclash q).1 h⟩
  · rintro ⟨q, hq, h⟩
    exact ⟨_, List.mem_map_of_mem hq, (hclash q).2 h⟩

/-- What is found is what an endpoint of the service reads. -/
theorem exists_route_of_find (h : standard.find p method = .ok (e, v)) :
    ∃ r : Route, e = r.endpoint ∧ r.endpoint.read? (relative p) = some v := by
  rw [find_eq_ok_iff, standard_eq] at h
  obtain ⟨f, hf, hread⟩ := List.exists_of_findSome?_eq_some h
  obtain ⟨r, -, rfl⟩ := List.mem_map.1 hf
  obtain ⟨rfl, -, hread⟩ := reading_eq_some_iff.1 hread
  exact ⟨r, rfl, hread⟩

/-- Where no path is given, the error names a variable that is no text or clashes. -/
theorem exists_of_path_eq_error (h : standard.find p method = .ok (e, v)) {err : EncodeError}
    (herr : standard.path e.route v = .error err) :
    ∃ q ∈ v, (∃ fault, Letter.text q.2 = .error fault ∧ err = .surrogates fault) ∨
      Route.Clashes q ∧ ∃ value, q.2 = value.map .char ∧ err = .separatorInValue q.1 value := by
  obtain ⟨r, rfl, hread⟩ := exists_route_of_find h
  exact exists_of_fill_eq_error (nodup_names r) hread ((path_standard r v).symm.trans herr)

/-- The variables of a path with a surrogate give no path. -/
theorem not_hasSurrogate_of_path {p' : Text} (h : standard.find p method = .ok (e, v))
    (hp' : standard.path e.route v = .ok p') : ¬ CodePoint.HasSurrogate p := by
  intro hp
  obtain ⟨r, rfl, hread⟩ := exists_route_of_find h
  have hkeys := map_fst_of_read? hread
  obtain ⟨q, hq, hsurrogate⟩ := exists_hasSurrogate_of_read? hread (hasSurrogate_relative hp)
  obtain ⟨slot, hs, hname⟩ := mem_names_iff.1 (hkeys ▸ List.mem_map_of_mem (f := Prod.fst) hq)
  refine not_hasSurrogate_of_fill ((path_standard r v).symm.trans hp') hs ?_
  rwa [hname, Vars.get_of_mem (hkeys ▸ nodup_names r) hq]

end Points

/-- The first surrogate is found as the name of a repository. -/
theorem find_surrogate : standard.find ("repos/".toList.map CodePoint.char ++ [.surrogate 0]) "GET" =
    .ok (Route.repo.endpoint, [(Var.repo, [CodePoint.surrogate 0])]) := by
  rw [standard_eq]
  decide +kernel

/-! ## Main statement -/

/-- The variables of a path that is a text give no path exactly if one of them clashes, and then the error names such a
one. Else they give a path that is found as the same endpoint with the same variables, and so gives itself. The
variables of a path with a surrogate give no path, and the error names one that is no text or clashes. -/
theorem path_of_find {p : List CodePoint} {v : Vars CodePoint} (h : standard.find p method = .ok (e, v)) :
    (¬ CodePoint.HasSurrogate p →
      ((∃ err, standard.path e.route v = .error err) ↔ ∃ q ∈ v, Route.Clashes q) ∧
      (∀ err, standard.path e.route v = .error err →
        ∃ q ∈ v, Route.Clashes q ∧ ∃ value, q.2 = value.map .char ∧ err = .separatorInValue q.1 value) ∧
      ((¬ ∃ q ∈ v, Route.Clashes q) → ∃ p', standard.path e.route v = .ok p' ∧
        standard.find (p'.map CodePoint.char) method = .ok (e, v) ∧
        ∀ f w, standard.find (p'.map CodePoint.char) method = .ok (f, w) → standard.path f.route w = .ok p')) ∧
    (CodePoint.HasSurrogate p → ∃ err, standard.path e.route v = .error err ∧
      ∃ q ∈ v, (∃ fault, Letter.text q.2 = .error fault ∧ err = .surrogates fault) ∨
        Route.Clashes q ∧ ∃ value, q.2 = value.map .char ∧ err = .separatorInValue q.1 value) := by
  constructor
  · intro hp
    obtain ⟨s, rfl⟩ := CodePoint.exists_map_char_iff.2 hp
    obtain ⟨u, rfl, hs⟩ := find_map_char_eq_ok_iff.1 h
    rw [path_points, exists_clashes_points_iff]
    refine ⟨?_, ?_, ?_⟩
    · rw [exists_error_iff, exists_path_iff hs, not_not]
    · intro err herr
      obtain ⟨q, hq, hfault | hclash⟩ := exists_of_path_eq_error h ((path_points ..).trans herr)
      · -- the values of a text are texts
        obtain ⟨fault, hfault, -⟩ := hfault
        obtain ⟨x, -, rfl⟩ := List.mem_map.1 hq
        rw [Letter.text_codePoint, CodePoint.text_map_char] at hfault
        cases hfault
      · exact ⟨q, hq, hclash⟩
    · intro hno
      obtain ⟨p', hp'⟩ := (exists_path_iff hs).2 hno
      have hfind : standard.find (p'.map CodePoint.char) method = .ok (e, u.points) :=
        find_map_char_eq_ok_iff.2 ⟨u, rfl, find_of_path hs hp'⟩
      refine ⟨p', hp', hfind, fun f w hw => ?_⟩
      rw [hfind] at hw
      cases hw
      rw [path_points, hp']
  · intro hp
    cases hpath : standard.path e.route v with
    | ok p' => exact absurd hp (not_hasSurrogate_of_path h hpath)
    | error err => exact ⟨err, rfl, exists_of_path_eq_error h hpath⟩

/-- Escapes in lower case, of a slash, of dots and of a byte that is no text, are built otherwise and found the same;
what an escaped separator gives is not built, nor what a surrogate gives. -/
theorem path_of_find_escapes :
    (∃ p', standard.path .repoStats ([(Var.repo, "a/b/.."), (Var.rev, "\uFFFD")] : Vars) = .ok p' ∧
      standard.find (p'.map CodePoint.char) "GET" =
        standard.find ("//repos/a%2fb/%2e%2e@%ff/-/stats".toList.map CodePoint.char) "GET") ∧
    (∃ err, standard.path .repo ([(Var.repo, "a/-/b")] : Vars) = .error err) ∧
    ∃ err, standard.path .repo [(Var.repo, [CodePoint.surrogate 0])] = .error err := by
  refine ⟨?_, ?_, ?_⟩
  · have hfind : standard.find ("//repos/a%2fb/%2e%2e@%ff/-/stats".toList.map CodePoint.char) "GET" =
        .ok (Route.repoStats.endpoint, Vars.points [(Var.repo, "a/b/.."), (Var.rev, "\uFFFD")]) := by
      rw [standard_eq]
      decide +kernel
    obtain ⟨-, -, hbuild⟩ := (path_of_find hfind).1 (CodePoint.not_hasSurrogate_map_char _)
    obtain ⟨p', hp', hfind', -⟩ := hbuild (by decide +kernel)
    exact ⟨p', (path_points ..).symm.trans hp', hfind'.trans hfind.symm⟩
  · have hfind : standard.find ("repos/a%2F-%2Fb".toList.map CodePoint.char) "GET" =
        .ok (Route.repo.endpoint, Vars.points [(Var.repo, "a/-/b")]) := by
      rw [standard_eq]
      decide +kernel
    rw [← path_points]
    exact ((path_of_find hfind).1 (CodePoint.not_hasSurrogate_map_char _)).1.2 (by decide +kernel)
  · obtain ⟨err, herr, -⟩ := (path_of_find find_surrogate).2 ⟨0, List.mem_append_right _ (List.mem_singleton_self _)⟩
    exact ⟨err, herr⟩

/-- A path may be found, with variables none of which clashes, and not be built again: a surrogate has no escapes. -/
theorem not_forall_path_of_find :
    ¬ ∀ (p : List CodePoint) (method : Text) (e : Endpoint) (v : Vars CodePoint), standard.find p method = .ok (e, v) →
      (¬ ∃ q ∈ v, Route.Clashes q) → ∃ p', standard.path e.route v = .ok p' := by
  intro h
  obtain ⟨p', hp'⟩ := h _ _ _ _ find_surrogate (by decide +kernel)
  rw [path_standard] at hp'
  cases hp'

end Router

end CodeAddress

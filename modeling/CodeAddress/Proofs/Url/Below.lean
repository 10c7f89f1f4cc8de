/-
URLs below a base. A base has a scheme and a place and neither query nor fragment (`IsBase`). It keeps all its parts but
the path if a path is written behind it (`IsBase.ofText_slashed_append`), and a straight path of safe characters stands
unchanged at the end of the URL (`IsBase.exists_of_append`). Behind a text with a query or a fragment, the path becomes
part of these (`exists_of_append_mark`). Parameters leave the path as it is (`path_of_withParams`).
-/
import CodeAddress.Proofs.Outcome
import CodeAddress.Proofs.Url.Path
import CodeAddress.Url.Query

namespace CodeAddress

namespace Text

/-! ## Last characters -/

theorem endsWith_append {c : Char} {s t : Text} (h : t ≠ []) : endsWith [c] (s ++ t) = endsWith [c] t := by
  obtain ⟨d, r, hr⟩ := List.exists_cons_of_ne_nil (mt List.reverse_eq_nil_iff.1 h)
  rw [endsWith, endsWith, List.reverse_append, hr, List.reverse_singleton, beginsWith, beginsWith, List.cons_append,
    after?_singleton, after?_singleton]
  split <;> rfl

theorem endsWith_iff {c : Char} {s : Text} : endsWith [c] s = true ↔ ∃ t, s = t ++ [c] := by
  rw [endsWith, beginsWith_iff, ← List.reverse_suffix, List.reverse_reverse, List.reverse_reverse]
  exact exists_congr fun t => eq_comm

/-- A slashed text is a text and a slash, whether or not the slash was there. -/
theorem exists_slashed (s : Text) : ∃ t, slashed s = t ++ ['/'] ∧ (s = t ∨ s = t ++ ['/']) := by
  unfold slashed
  split
  · next h =>
    obtain ⟨t, rfl⟩ := endsWith_iff.1 h
    exact ⟨t, rfl, .inr rfl⟩
  · exact ⟨s, rfl, .inl rfl⟩

/-- Behind characters other than slashes, a text is slashed as its end is. -/
theorem exists_slash (pre : Text) {s t : Text} (hne : s ++ t ≠ []) (hs : '/' ∉ s) :
    ∃ x, (x = [] ∨ x = ['/']) ∧ slashed (pre ++ (s ++ t)) = pre ++ (s ++ t) ++ x ∧ slashed t = t ++ x := by
  have hend : endsWith ['/'] (pre ++ (s ++ t)) = endsWith ['/'] t := by
    rw [endsWith_append hne]
    cases t with
    | nil =>
      rw [List.append_nil]
      refine Bool.eq_false_iff.2 fun h => hs ?_
      obtain ⟨r, rfl⟩ := endsWith_iff.1 h
      exact List.mem_append_right _ (List.mem_singleton_self _)
    | cons c t => exact endsWith_append (List.cons_ne_nil _ _)
  unfold slashed
  rw [hend]
  split
  · exact ⟨[], .inl rfl, by simp, by simp⟩
  · exact ⟨['/'], .inr rfl, rfl, rfl⟩

end Text

namespace Url

variable {idna : Idna} {s t base p q : Text} {b u w : Url}

/-! ## Parts of a longer text -/

theorem cutScheme_append (ht : ':' ∉ t) : cutScheme (s ++ t) = ((cutScheme s).1, (cutScheme s).2 ++ t) := by
  unfold cutScheme
  cases h : Text.cut? [':'] s with
  | none =>
    have hs : ':' ∉ s ++ t := by
      rw [List.mem_append, not_or]
      exact ⟨Text.cut?_char_eq_none_iff.1 h, ht⟩
    rw [Text.cut?_char_eq_none_iff.2 hs]
  | some c =>
    obtain ⟨scheme, rest⟩ := c
    rw [Text.cut?_append_of_eq_some (by simp) h]
    dsimp only
    split <;> rfl

theorem cutScheme_suffix (s : Text) : (cutScheme s).2 <:+ s := by
  unfold cutScheme
  split
  · next scheme rest h =>
    rw [Text.eq_append_of_cut? h]
    split
    · exact ⟨scheme ++ [':'], by simp⟩
    · exact List.suffix_refl _
  · exact List.suffix_refl _

theorem cutMark_of_notMem {m : Char} (h : m ∉ s) : cutMark m s = (s, none) := by
  rw [cutMark, Text.cut?_char_eq_none_iff.2 h]

/-- The parts of a text without query and fragment. -/
theorem Parts.ofText_eq (hh : '#' ∉ s) (hq : '?' ∉ s) :
    Parts.ofText s =
      match Text.after? ['/', '/'] (cutScheme s).2 with
      | none => { scheme := (cutScheme s).1, path := (cutScheme s).2 }
      | some rest => Parts.withAuthority { scheme := (cutScheme s).1, path := rest.dropWhile (· ≠ '/') }
          (rest.takeWhile (· ≠ '/')) := by
  have hfragment := cutMark_of_notMem fun h => hh ((cutScheme_suffix s).mem h)
  have hquery := cutMark_of_notMem fun h => hq ((cutScheme_suffix s).mem h)
  unfold Parts.ofText
  cases hs : Text.after? ['/', '/'] (cutScheme s).2 <;> simp only [hfragment, hquery, hs]

theorem Parts.withAuthority_nil (p : Parts) : (Parts.withAuthority p []).host = [] := rfl

theorem rooted_dropWhile (s : Text) : Rooted (s.dropWhile (· ≠ '/')) := by
  cases hd : s.dropWhile (· ≠ '/') with
  | nil => exact .inl rfl
  | cons c t =>
    have hc := List.head?_dropWhile_not (fun c : Char => decide (c ≠ '/')) s
    rw [hd] at hc
    simp only [List.head?_cons, decide_eq_false_iff_not, not_not] at hc
    exact .inr ⟨t, by rw [hc]⟩

/-- An authority ends at the first slash. -/
theorem span_authority {authority path : Text} (ha : '/' ∉ authority) (hpath : Rooted path) :
    (authority ++ path).takeWhile (· ≠ '/') = authority ∧ (authority ++ path).dropWhile (· ≠ '/') = path := by
  have hall : ∀ c ∈ authority, decide (c ≠ '/') = true := fun c hc => decide_eq_true fun h => ha (h ▸ hc)
  rw [List.takeWhile_append_of_pos hall, List.dropWhile_append_of_pos hall]
  rcases hpath with rfl | ⟨t, rfl⟩ <;> simp

/-- The parts of a text that begins, behind its scheme, with two slashes and an authority. -/
theorem Parts.ofText_of_place {authority path : Text} (hh : '#' ∉ s) (hq : '?' ∉ s)
    (hs : (cutScheme s).2 = ['/', '/'] ++ (authority ++ path)) (ha : '/' ∉ authority) (hpath : Rooted path) :
    Parts.ofText s = Parts.withAuthority { scheme := (cutScheme s).1, path } authority := by
  obtain ⟨htake, hdrop⟩ := span_authority ha hpath
  rw [Parts.ofText_eq hh hq, Text.after?_eq_some_iff.2 hs]
  simp only [htake, hdrop]

/-- A text with a host has two slashes and more behind its scheme. -/
theorem Parts.exists_of_host (hh : '#' ∉ s) (hq : '?' ∉ s) (hhost : (Parts.ofText s).host ≠ []) :
    ∃ rest, rest ≠ [] ∧ (cutScheme s).2 = ['/', '/'] ++ rest := by
  rw [Parts.ofText_eq hh hq] at hhost
  split at hhost
  · exact absurd rfl hhost
  · next rest hrest =>
    refine ⟨rest, ?_, Text.after?_eq_some_iff.1 hrest⟩
    rintro rfl
    exact hhost (Parts.withAuthority_nil _)

/-- An authority and a rooted path make up what follows the two slashes. -/
theorem exists_authority (rest : Text) :
    ∃ authority path, rest = authority ++ path ∧ '/' ∉ authority ∧ Rooted path := by
  refine ⟨rest.takeWhile (· ≠ '/'), rest.dropWhile (· ≠ '/'), List.takeWhile_append_dropWhile.symm, ?_,
    rooted_dropWhile rest⟩
  intro h
  have hall := List.all_eq_true.1 (List.all_takeWhile (p := fun c : Char => decide (c ≠ '/')) (l := rest)) _ h
  exact absurd rfl (of_decide_eq_true hall)

theorem exists_slashed_of_rooted (h : Rooted q) : ∃ t, Text.slashed q = '/' :: t := by
  rcases h with rfl | ⟨t, rfl⟩
  · exact ⟨[], rfl⟩
  · unfold Text.slashed
    split
    · exact ⟨t, rfl⟩
    · exact ⟨t ++ ['/'], rfl⟩

theorem Parts.query_ofText (hh : '#' ∉ s) (hq : '?' ∉ s) :
    (Parts.ofText s).query = none ∧ (Parts.ofText s).fragment = none := by
  rw [Parts.ofText_eq hh hq]
  split <;> exact ⟨rfl, rfl⟩

/-! ## Bases -/

/-- A text that paths can be written behind: it has no query and no fragment, and two slashes and more behind its
scheme. -/
structure IsBase (base : Text) : Prop where
  scheme : (cutScheme base).1 ≠ []
  place : ∃ rest, rest ≠ [] ∧ (cutScheme base).2 = ['/', '/'] ++ rest
  query : '?' ∉ base
  fragment : '#' ∉ base

theorem scheme_ofText (s : Text) : (Parts.ofText s).scheme = (cutScheme s).1 := by
  unfold Parts.ofText
  dsimp only
  split <;> rfl

theorem IsBase.scheme_ne_nil (h : IsBase base) : (Parts.ofText base).scheme ≠ [] := by
  rw [scheme_ofText]
  exact h.scheme

/-- A path behind a base changes nothing but the path. -/
theorem IsBase.ofText_slashed_append (h : IsBase base) (hp : ∀ c ∈ p, c ≠ ':' ∧ c ≠ '#' ∧ c ≠ '?') :
    Rooted (Parts.ofText base).path ∧
      Parts.ofText (Text.slashed base ++ p) =
        { Parts.ofText base with path := Text.slashed (Parts.ofText base).path ++ p } := by
  obtain ⟨-, ⟨rest, hne, hs⟩, hq, hh⟩ := h
  obtain ⟨authority, path, rfl, ha, hpath⟩ := exists_authority rest
  obtain ⟨before, hbefore⟩ := cutScheme_suffix base
  -- `x` is the slash that the base lacks at its end, if it lacks one
  obtain ⟨x, hx, hxbase, hxpath⟩ := Text.exists_slash (before ++ ['/', '/']) (t := path) hne ha
  rw [List.append_assoc before, ← hs, hbefore] at hxbase
  have hmarks : ∀ c ∈ x ++ p, c ≠ ':' ∧ c ≠ '#' ∧ c ≠ '?' := by
    intro c hc
    rcases List.mem_append.1 hc with hc | hc
    · rcases hx with rfl | rfl
      · cases hc
      · rw [List.mem_singleton.1 hc]
        decide
    · exact hp c hc
  have hnot {m : Char} (hb : m ∉ base) (hm : m ∉ x ++ p) : m ∉ base ++ (x ++ p) := by
    rw [List.mem_append, not_or]
    exact ⟨hb, hm⟩
  have hcut : cutScheme (base ++ (x ++ p)) = ((cutScheme base).1, (cutScheme base).2 ++ (x ++ p)) :=
    cutScheme_append fun h => (hmarks _ h).1 rfl
  have hrooted : Rooted (path ++ (x ++ p)) := by
    obtain ⟨t, ht⟩ := exists_slashed_of_rooted hpath
    rw [← List.append_assoc, ← hxpath, ht]
    exact .inr ⟨t ++ p, rfl⟩
  have hlong : Parts.ofText (base ++ (x ++ p)) =
      Parts.withAuthority { scheme := (cutScheme (base ++ (x ++ p))).1, path := path ++ (x ++ p) } authority := by
    refine Parts.ofText_of_place (hnot hh fun h => (hmarks _ h).2.1 rfl) (hnot hq fun h => (hmarks _ h).2.2 rfl) ?_ ha
      hrooted
    rw [hcut, hs]
    simp only [List.append_assoc]
  rw [Parts.ofText_of_place hh hq hs ha hpath, hxbase, List.append_assoc, hlong, hcut]
  refine ⟨hpath, ?_⟩
  show Parts.withAuthority _ authority = { Parts.withAuthority _ authority with path := Text.slashed path ++ p }
  rw [hxpath, List.append_assoc]
  rfl

/-! ## Queries and fragments -/

/-- The text between the scheme and the marks of query and fragment. -/
def body (s : Text) : Text := (cutMark '?' (cutMark '#' (cutScheme s).2).1).1

theorem Parts.ofText_marks (s : Text) :
    (Parts.ofText s).query = (cutMark '?' (cutMark '#' (cutScheme s).2).1).2 ∧
      (Parts.ofText s).fragment = (cutMark '#' (cutScheme s).2).2 := by
  unfold Parts.ofText
  dsimp only
  split <;> exact ⟨rfl, rfl⟩

theorem Parts.ofText_of_body (hscheme : (cutScheme t).1 = (cutScheme s).1) (hbody : body t = body s) :
    ∃ query fragment, Parts.ofText t = { Parts.ofText s with query, fragment } := by
  refine ⟨(Parts.ofText t).query, (Parts.ofText t).fragment, ?_⟩
  unfold body at hbody
  unfold Parts.ofText
  dsimp only
  rw [hscheme, hbody]
  split
  · rfl
  · rfl

theorem cutMark_append {m : Char} (h : m ∈ s) (t : Text) :
    (cutMark m (s ++ t)).1 = (cutMark m s).1 ∧ (cutMark m s).2.isSome := by
  cases hc : Text.cut? [m] s with
  | none => exact absurd h (Text.cut?_char_eq_none_iff.1 hc)
  | some c =>
    rw [cutMark, cutMark, hc, Text.cut?_append_of_eq_some (by simp) hc]
    exact ⟨rfl, rfl⟩

/-- What is written behind a query or a fragment belongs to it. -/
theorem Parts.ofText_append_of_mark (hp : ∀ c ∈ p, c ≠ ':' ∧ c ≠ '#' ∧ c ≠ '?')
    (hmark : '?' ∈ (cutScheme s).2 ∨ '#' ∈ (cutScheme s).2) :
    (∃ query fragment, Parts.ofText (s ++ p) = { Parts.ofText s with query, fragment }) ∧
      ((Parts.ofText s).query.isSome ∨ (Parts.ofText s).fragment.isSome) := by
  have hcut : cutScheme (s ++ p) = ((cutScheme s).1, (cutScheme s).2 ++ p) := cutScheme_append fun h => (hp _ h).1 rfl
  rw [(Parts.ofText_marks s).1, (Parts.ofText_marks s).2]
  by_cases hh : '#' ∈ (cutScheme s).2
  · obtain ⟨hbefore, hsome⟩ := cutMark_append hh p
    refine ⟨Parts.ofText_of_body (by rw [hcut]) ?_, .inr hsome⟩
    rw [body, body, hcut]
    dsimp only
    rw [hbefore]
  · have hq := hmark.resolve_right hh
    obtain ⟨hbefore, hsome⟩ := cutMark_append hq p
    have hh' : '#' ∉ (cutScheme s).2 ++ p := by
      rw [List.mem_append, not_or]
      exact ⟨hh, fun h => (hp _ h).2.1 rfl⟩
    refine ⟨Parts.ofText_of_body (by rw [hcut]) ?_, .inl ?_⟩
    · rw [body, body, hcut]
      dsimp only
      rw [cutMark_of_notMem hh, cutMark_of_notMem hh', hbefore]
    · rw [cutMark_of_notMem hh]
      exact hsome

/-! ## Normal forms -/

theorem control?_eq_none_iff : control? s = none ↔ ∀ c ∈ s, ¬ (c.toNat < 0x20 ∨ c.toNat = 0x7F) := by
  simp only [control?, List.find?_eq_none, Bool.or_eq_true, decide_eq_true_eq, beq_iff_eq]
  constructor
  · intro h c hc
    obtain ⟨i, hi⟩ := List.getElem?_of_mem hc
    exact h (c, i) (List.mk_mem_zipIdx_iff_getElem?.2 hi)
  · rintro h ⟨c, i⟩ hc
    exact h c (List.mem_of_getElem? (List.mk_mem_zipIdx_iff_getElem?.1 hc))

theorem ofText_eq_ok_iff :
    ofText idna s = .ok u ↔ s.length ≤ lengthLimit ∧ control? s = none ∧ ofParts idna (Parts.ofText s) = .ok u := by
  unfold ofText
  by_cases hlen : lengthLimit < s.length
  · simp [hlen, Nat.not_le.2 hlen]
  · rw [if_neg hlen]
    cases control? s with
    | some c => simp
    | none => simp [Nat.le_of_not_lt hlen]

/-- The beginning of a text that is read as a URL is read as one if its parts are. -/
theorem ofText_of_append (h : ofText idna (s ++ t) = .ok u) (hb : ofParts idna (Parts.ofText s) = .ok b) :
    ofText idna s = .ok b := by
  obtain ⟨hlen, hcontrol, -⟩ := ofText_eq_ok_iff.1 h
  rw [List.length_append] at hlen
  rw [control?_eq_none_iff] at hcontrol
  exact ofText_eq_ok_iff.2
    ⟨by omega, control?_eq_none_iff.2 fun c hc => hcontrol c (List.mem_append_left _ hc), hb⟩

/-- What the parts have become in a URL. -/
structure IsNormalOf (idna : Idna) (parts : Parts) (u : Url) : Prop where
  scheme : u.scheme = Text.lower parts.scheme
  userinfo : u.userinfo = Percent.quote safeInUserinfo parts.userinfo
  host : Host.read idna parts.host = .ok u.host
  port : readPort parts.scheme parts.port = .ok u.port
  path : u.path = Percent.quote safeInPath (if u.isAbsolute then straighten parts.path else parts.path)
  query : u.query = parts.query.map (Percent.quote safeInQuery)
  fragment : u.fragment = parts.fragment.map (Percent.quote safeInFragment)

theorem isNormalOf_of_ofParts {parts : Parts} (h : ofParts idna parts = .ok u) : IsNormalOf idna parts u := by
  unfold ofParts at h
  obtain ⟨host, hhost, h⟩ := exists_of_bind_eq_ok h
  obtain ⟨port, hport, h⟩ := exists_of_bind_eq_ok h
  obtain ⟨_, -, h⟩ := exists_of_bind_eq_ok h
  cases h
  exact ⟨rfl, rfl, hhost, hport, rfl, rfl, rfl⟩

theorem scheme_ne_nil_iff {parts : Parts} (h : ofParts idna parts = .ok u) : u.scheme ≠ [] ↔ parts.scheme ≠ [] := by
  rw [(isNormalOf_of_ofParts h).scheme]
  simp [Text.lower]

theorem isAbsolute_of_scheme (hs : u.scheme ≠ []) : u.isAbsolute = true := by
  rw [isAbsolute, decide_eq_true hs, Bool.true_or]

/-- The path of an absolute URL is straight. -/
theorem path_of_ofParts {parts : Parts} (hs : parts.scheme ≠ []) (h : ofParts idna parts = .ok u) :
    u.path = Percent.quote safeInPath (straighten parts.path) := by
  rw [(isNormalOf_of_ofParts h).path, if_pos (isAbsolute_of_scheme ((scheme_ne_nil_iff h).2 hs))]

theorem checkPath_of_rooted (hs : u.scheme ≠ []) (hp : Rooted p) : u.checkPath p = .ok () := by
  have hslash : p = [] ∨ Text.beginsWith ['/'] p = true := by
    rcases hp with rfl | ⟨t, rfl⟩
    · exact .inl rfl
    · exact .inr (Text.beginsWith_iff.2 ⟨t, rfl⟩)
  rw [checkPath, if_pos hslash, if_pos (isAbsolute_of_scheme hs)]
  split <;> rfl

/-- Parts that differ in a rooted path give URLs that differ in the path. -/
theorem ofParts_path {parts : Parts} {path : Text} (hs : parts.scheme ≠ []) (hp : Rooted parts.path)
    (hpath : Rooted path) :
    ofParts idna { parts with path } =
      (ofParts idna parts).map fun b => { b with path := Percent.quote safeInPath (straighten path) } := by
  have hlower : Text.lower parts.scheme ≠ [] := by simpa [Text.lower] using hs
  unfold ofParts
  dsimp only
  cases Host.read idna parts.host with
  | error e => rfl
  | ok host =>
    cases readPort parts.scheme parts.port with
    | error e => rfl
    | ok port =>
      simp only [ok_bind]
      rw [checkPath_of_rooted hlower hp, checkPath_of_rooted hlower hpath, if_pos (isAbsolute_of_scheme hlower),
        if_pos (isAbsolute_of_scheme hlower)]
      rfl

/-- Parts that differ in query and fragment give URLs that differ in these. -/
theorem ofParts_marks (parts : Parts) (query fragment : Option Text) :
    ofParts idna { parts with query, fragment } = (ofParts idna parts).map fun b =>
      { b with
        query := query.map (Percent.quote safeInQuery)
        fragment := fragment.map (Percent.quote safeInFragment) } := by
  unfold ofParts
  dsimp only
  cases Host.read idna parts.host with
  | error e => rfl
  | ok host =>
    cases readPort parts.scheme parts.port with
    | error e => rfl
    | ok port =>
      simp only [ok_bind]
      -- neither the check of the path nor what becomes of it looks at the two
      let u : Url :=
        { scheme := Text.lower parts.scheme, userinfo := Percent.quote safeInUserinfo parts.userinfo, host, port }
      change (u.checkPath parts.path >>= _) = (u.checkPath parts.path >>= _).map _
      cases u.checkPath parts.path <;> rfl

/-- A text that has a scheme and a host, but neither query nor fragment, is a base. -/
theorem isBase_of_host (hb : ofText idna base = .ok b) (hscheme : b.scheme ≠ []) (hhost : b.host ≠ []) (hh : '#' ∉ base)
    (hq : '?' ∉ base) : IsBase base := by
  obtain ⟨-, -, hparts⟩ := ofText_eq_ok_iff.1 hb
  have hs := (scheme_ne_nil_iff hparts).1 hscheme
  have hread := (isNormalOf_of_ofParts hparts).host
  refine ⟨by rwa [← scheme_ofText], Parts.exists_of_host hh hq fun h => ?_, hq, hh⟩
  rw [h, Host.read, if_pos rfl] at hread
  exact hhost (Except.ok.inj hread).symm

theorem isBase_of_http (hb : ofText idna base = .ok b) (hscheme : b.scheme = "http".toList ∨ b.scheme = "https".toList)
    (hhost : b.host ≠ []) (hh : '#' ∉ base) (hq : '?' ∉ base) : IsBase base := by
  refine isBase_of_host hb ?_ hhost hh hq
  rcases hscheme with h | h
  · rw [h]
    decide
  · rw [h]
    decide

/-- The path of an absolute URL is in normal form. -/
theorem normal_path (hu : ofText idna s = .ok u) (hs : u.scheme ≠ []) :
    Percent.quote safeInPath (straighten u.path) = u.path ∧ '?' ∉ u.path := by
  obtain ⟨-, -, hparts⟩ := ofText_eq_ok_iff.1 hu
  rw [path_of_ofParts ((scheme_ne_nil_iff hparts).1 hs) hparts]
  exact ⟨straighten_quote _, question_notMem_quote _⟩

theorem not_mark_of_safe {c : Char} (h : safeInPath c = true) : c ≠ '#' ∧ c ≠ '?' := by
  constructor
  · rintro rfl
    rw [safeInPath_marks.2] at h
    cases h
  · rintro rfl
    rw [safeInPath_marks.1] at h
    cases h

theorem not_control_of_safe {c : Char} (h : safeInPath c = true) : ¬ (c.toNat < 0x20 ∨ c.toNat = 0x7F) := by
  simp only [safeInPath, safeInQuery, visible, Bool.and_eq_true, decide_eq_true_eq] at h
  have hlow : '!'.toNat ≤ c.toNat := h.1.1.1
  have hhigh : c.toNat ≤ '~'.toNat := h.1.1.2
  have h1 : '!'.toNat = 33 := rfl
  have h2 : '~'.toNat = 126 := rfl
  omega

theorem rooted_of_append_slash (h : Rooted (q ++ ['/'])) : Rooted q := by
  rcases h with h | ⟨t, h⟩
  · exact .inl (List.append_eq_nil_iff.1 h).1
  · rcases List.append_eq_cons_iff.1 h with ⟨hq, -⟩ | ⟨t', hq, -⟩
    · exact .inl hq
    · exact .inr ⟨t', hq⟩

theorem quote_straighten_below (hq : Rooted q) (hp : Straight p) (hsafe : ∀ c ∈ p, safeInPath c = true) :
    Percent.quote safeInPath (straighten (q ++ '/' :: p)) = Percent.quote safeInPath (straighten q) ++ '/' :: p := by
  rw [straighten_below hq hp, Percent.quote_append, Percent.quote_of_forall (s := '/' :: p)]
  exact List.forall_mem_cons.2 ⟨safeInPath_slash, hsafe⟩

/-! ## Paths behind a base -/

/-- Behind a base, and a slash if it lacks one, a straight path of safe characters becomes the end of the URL's path;
the rest of the path, `q`, is that of the base without a slash at its end. -/
theorem IsBase.exists_directory (h : IsBase base) :
    ∃ q, (∀ b, ofParts idna (Parts.ofText base) = .ok b → b.path = q ∨ b.path = q ++ ['/']) ∧
      ∀ p : Text, (∀ c ∈ p, safeInPath c = true) → ':' ∉ p → Straight p →
        ofParts idna (Parts.ofText (Text.slashed base ++ p)) =
          (ofParts idna (Parts.ofText base)).map fun b => { b with path := q ++ '/' :: p } := by
  have hs := h.scheme_ne_nil
  have hrooted := (h.ofText_slashed_append (p := []) (by simp)).1
  obtain ⟨q, hq, hpath⟩ := Text.exists_slashed (Parts.ofText base).path
  have hroot : Rooted q := by
    rcases hpath with h | h
    · rwa [h] at hrooted
    · rw [h] at hrooted
      exact rooted_of_append_slash hrooted
  refine ⟨Percent.quote safeInPath (straighten q), ?_, ?_⟩
  · intro b hb
    rw [path_of_ofParts hs hb]
    rcases hpath with h | h
    · exact .inl (by rw [h])
    · exact .inr (by rw [h]; exact quote_straighten_below hroot straight_nil (by simp))
  · intro p hsafe hcolon hp
    have hbelow : Rooted (q ++ '/' :: p) := by
      rcases hroot with rfl | ⟨t, rfl⟩
      · exact .inr ⟨p, rfl⟩
      · exact .inr ⟨t ++ '/' :: p, rfl⟩
    have hmarks : ∀ c ∈ p, c ≠ ':' ∧ c ≠ '#' ∧ c ≠ '?' := fun c hc =>
      ⟨fun h => hcolon (h ▸ hc), not_mark_of_safe (hsafe c hc)⟩
    rw [(h.ofText_slashed_append hmarks).2, hq, List.append_assoc, ← quote_straighten_below hroot hp hsafe]
    exact ofParts_path hs hrooted hbelow

/-- What is written behind a base becomes the end of the path, and all other parts are those of the base. -/
theorem IsBase.exists_of_append (h : IsBase base) (hsafe : ∀ c ∈ p, safeInPath c = true) (hcolon : ':' ∉ p)
    (hp : Straight p) (hu : ofText idna (Text.slashed base ++ p) = .ok u) :
    ∃ b q, ofText idna base = .ok b ∧ ofText idna (Text.slashed base) = .ok { b with path := q ++ ['/'] } ∧
      u = { b with path := q ++ '/' :: p } ∧ (b.path = q ∨ b.path = q ++ ['/']) ∧
      b.scheme ≠ [] ∧ b.query = none ∧ b.fragment = none := by
  obtain ⟨q, hq, happend⟩ := h.exists_directory
  obtain ⟨-, -, hparts⟩ := ofText_eq_ok_iff.1 hu
  rw [happend p hsafe hcolon hp, map_eq_ok_iff] at hparts
  obtain ⟨b, hb, rfl⟩ := hparts
  have hslashed : ofParts idna (Parts.ofText (Text.slashed base)) = .ok { b with path := q ++ ['/'] } := by
    have := happend [] (by simp) (by simp) straight_nil
    rwa [List.append_nil, hb] at this
  obtain ⟨t, ht, hbase⟩ := Text.exists_slashed base
  have hbefore : ∃ x, Text.slashed base ++ p = base ++ x := by
    rcases hbase with rfl | h
    · exact ⟨'/' :: p, by rw [ht, List.append_assoc]; rfl⟩
    · exact ⟨p, by rw [ht, ← h]⟩
  obtain ⟨x, hx⟩ := hbefore
  have hquery := (isNormalOf_of_ofParts hb).query
  have hfragment := (isNormalOf_of_ofParts hb).fragment
  rw [(Parts.query_ofText h.fragment h.query).1] at hquery
  rw [(Parts.query_ofText h.fragment h.query).2] at hfragment
  exact ⟨b, q, ofText_of_append (hx ▸ hu) hb, ofText_of_append hu hslashed, rfl, hq b hb,
    (scheme_ne_nil_iff hb).2 h.scheme_ne_nil, hquery, hfragment⟩

/-- A path can be written behind a base as long as the text does not become too long. -/
theorem IsBase.exists_ofText_append (h : IsBase base) (hb : ofText idna base = .ok b)
    (hsafe : ∀ c ∈ p, safeInPath c = true) (hcolon : ':' ∉ p) (hp : Straight p)
    (hlen : (Text.slashed base ++ p).length ≤ lengthLimit) :
    ∃ u, ofText idna (Text.slashed base ++ p) = .ok u := by
  obtain ⟨q, -, happend⟩ := h.exists_directory
  obtain ⟨-, hcontrol, hparts⟩ := ofText_eq_ok_iff.1 hb
  rw [control?_eq_none_iff] at hcontrol
  have hu := happend p hsafe hcolon hp
  rw [hparts] at hu
  refine ⟨_, ofText_eq_ok_iff.2 ⟨hlen, control?_eq_none_iff.2 fun c hc => ?_, hu⟩⟩
  obtain ⟨t, ht, hbase⟩ := Text.exists_slashed base
  have hmem : c ∈ base ∨ c = '/' ∨ c ∈ p := by
    rw [ht] at hc
    rcases hbase with rfl | rfl <;> simp at hc ⊢ <;> tauto
  rcases hmem with hc | rfl | hc
  · exact hcontrol c hc
  · decide
  · exact not_control_of_safe (hsafe c hc)

/-- Behind a text with a query or a fragment, what is written leaves the path as it is. -/
theorem exists_of_append_mark (hp : ∀ c ∈ p, c ≠ ':' ∧ c ≠ '#' ∧ c ≠ '?')
    (hmark : '?' ∈ (cutScheme s).2 ∨ '#' ∈ (cutScheme s).2) (hu : ofText idna (s ++ p) = .ok u) :
    ∃ b, ofText idna s = .ok b ∧ u.scheme = b.scheme ∧ u.path = b.path ∧ (b.query.isSome ∨ b.fragment.isSome) := by
  obtain ⟨⟨query, fragment, happend⟩, hsome⟩ := Parts.ofText_append_of_mark hp hmark
  obtain ⟨-, -, hparts⟩ := ofText_eq_ok_iff.1 hu
  rw [happend] at hparts
  obtain ⟨b, hb, rfl⟩ := map_eq_ok_iff.1 ((ofParts_marks _ query fragment).symm.trans hparts)
  refine ⟨b, ofText_of_append hu hb, rfl, rfl, ?_⟩
  rw [(isNormalOf_of_ofParts hb).query, (isNormalOf_of_ofParts hb).fragment, Option.isSome_map, Option.isSome_map]
  exact hsome

/-- Parameters leave the path of an absolute URL as it is. -/
theorem path_of_withParams {ps : Params} (hu : ofText idna s = .ok u) (hs : u.scheme ≠ [])
    (h : u.withParams idna ps = .ok w) :
    w.path = u.path := by
  unfold withParams at h
  split at h
  · cases h
    rfl
  · unfold withQuery at h
    dsimp only at h
    split at h
    · cases h
    · rw [path_of_ofParts hs h]
      exact (normal_path hu hs).1

theorem target_of_query (hquery : u.query = none) : u.target = if u.path = [] then ['/'] else u.path := by
  rw [target, queryText, hquery, List.append_nil]

/-- What is asked of a host up to the query is the path. -/
theorem takeWhile_target (hq : '?' ∉ u.path) :
    u.target.takeWhile (· ≠ '?') = if u.path = [] then ['/'] else u.path := by
  have hall : ∀ c ∈ (if u.path = [] then ['/'] else u.path), decide (c ≠ '?') = true := by
    intro c hc
    rw [decide_eq_true_eq]
    rintro rfl
    split at hc
    · revert hc
      decide
    · exact hq hc
  rw [target, List.takeWhile_append_of_pos hall, queryText]
  cases u.query <;> simp

theorem takeWhile_target_of_withParams {ps : Params} (hu : ofText idna s = .ok u) (hs : u.scheme ≠ [])
    (h : u.withParams idna ps = .ok w) : w.target.takeWhile (· ≠ '?') = if u.path = [] then ['/'] else u.path := by
  have hpath := path_of_withParams hu hs h
  rw [← hpath]
  refine takeWhile_target ?_
  rw [hpath]
  exact (normal_path hu hs).2

end Url

end CodeAddress

/-
The token of a repository. Of the references that are written, the numbers are read back, and of the URIs those that
do not begin like a token of another kind (`ofToken_token_iff`): a URI that begins with the mark of numbers is read as
a number or refused, and one that begins with the home organisation gets the home host put before it. Two references
share a token for the same two reasons and no other (`token_eq_token_iff`).

No text begins with two of the three marks `idMark`, `homeHost` and `homeOrg` (`not_prefix_of_apart`), and
shortening takes the host away only where reading puts it back (`shorten_cases`). What is read never is one of
the URIs that are misread, so what is read is written again and read as the same (`exists_token_of_ofToken`).
-/
import CodeAddress.Proofs.Outcome
import CodeAddress.Proofs.Text.Basic
import CodeAddress.Proofs.Text.Numeral
import CodeAddress.Ref.Repo

namespace CodeAddress.Repo

variable {r s : Repo} {t u uri : Text}

/-! ## Marks -/

theorem idMark_ne_nil : idMark ≠ [] := by decide

theorem homeHost_ne_nil : homeHost ≠ [] := by decide

theorem not_idMark_of_homeOrg (h : homeOrg <+: t) : ¬ idMark <+: t :=
  Text.not_prefix_of_apart h (by decide) (by decide)

theorem not_idMark_of_homeHost (h : homeHost <+: t) : ¬ idMark <+: t :=
  Text.not_prefix_of_apart h (by decide) (by decide)

theorem not_homeOrg_of_homeHost (h : homeHost <+: t) : ¬ homeOrg <+: t :=
  Text.not_prefix_of_apart h (by decide) (by decide)

theorem not_homeHost_of_homeOrg (h : homeOrg <+: t) : ¬ homeHost <+: t :=
  Text.not_prefix_of_apart h (by decide) (by decide)

theorem not_homeHost_of_idMark (h : idMark <+: t) : ¬ homeHost <+: t :=
  Text.not_prefix_of_apart h (by decide) (by decide)

/-! ## Shortening -/

theorem shorten_of_not_homeHost (h : ¬ homeHost <+: uri) : shorten uri = uri := by
  rw [shorten, Text.after?_eq_none_iff.2 h]

theorem shorten_append (h : homeOrg <+: t) : shorten (homeHost ++ t) = t := by
  rw [shorten, Text.after?_eq_some_iff.2 rfl]
  exact if_pos (Text.beginsWith_iff.2 h)

/-- A URI loses the home host in front of the home organisation, or stays. -/
theorem shorten_cases (uri : Text) :
    (∃ rest, homeOrg <+: rest ∧ uri = homeHost ++ rest ∧ shorten uri = rest) ∨ shorten uri = uri := by
  unfold shorten
  split
  · next rest h =>
    split
    · next horg => exact .inl ⟨rest, Text.beginsWith_iff.1 horg, Text.after?_eq_some_iff.1 h, rfl⟩
    · exact .inr rfl
  · exact .inr rfl

/-- Two URIs are shortened to one text if the one is the other behind the home host. -/
theorem shorten_eq_shorten_iff {uri uri' : Text} :
    shorten uri = shorten uri' ↔
      uri = uri' ∨ (homeOrg <+: uri ∧ uri' = homeHost ++ uri) ∨ (homeOrg <+: uri' ∧ uri = homeHost ++ uri') := by
  constructor
  · intro h
    rcases shorten_cases uri with ⟨rest, horg, heq, hs⟩ | hs
    · rcases shorten_cases uri' with ⟨rest', horg', heq', hs'⟩ | hs'
      · left
        rw [heq, heq', ← hs, ← hs', h]
      · rw [hs, hs'] at h
        exact .inr (.inr ⟨h ▸ horg, h ▸ heq⟩)
    · rcases shorten_cases uri' with ⟨rest', horg', heq', hs'⟩ | hs'
      · rw [hs, hs'] at h
        exact .inr (.inl ⟨h ▸ horg', h ▸ heq'⟩)
      · rw [hs, hs'] at h
        exact .inl h
  · rintro (rfl | ⟨horg, rfl⟩ | ⟨horg, rfl⟩)
    · rfl
    · rw [shorten_append horg, shorten_of_not_homeHost (not_homeHost_of_homeOrg horg)]
    · rw [shorten_append horg, shorten_of_not_homeHost (not_homeHost_of_homeOrg horg)]

/-! ## Writing -/

theorem token_eq_ok_iff :
    r.token = .ok t ↔ (0 < r.id ∧ Numeral.isWritable r.id = true ∧ t = idMark ++ Numeral.ofInt r.id) ∨
      (¬ 0 < r.id ∧ r.uri ≠ [] ∧ t = shorten r.uri) := by
  unfold token
  by_cases hid : 0 < r.id
  · by_cases hw : Numeral.isWritable r.id = true
    · rw [if_pos hid, if_pos hw, Except.ok.injEq, eq_comm]
      simp only [hid, hw, true_and, not_true_eq_false, false_and, or_false]
    · simp only [hid, hw, if_true, if_false, reduceCtorEq, not_true_eq_false, false_and, and_false, or_false]
  · by_cases hne : r.uri ≠ []
    · rw [if_neg hid, if_pos hne, Except.ok.injEq, eq_comm]
      exact ⟨fun h => .inr ⟨hid, hne, h⟩, fun h => (h.resolve_left fun h => hid h.1).2.2⟩
    · simp only [hid, hne, if_false, reduceCtorEq, false_and, and_false, or_false]

/-! ## Reading -/

theorem ofToken_idMark (digits : Text) : ofToken (idMark ++ digits) = ofDigits (idMark ++ digits) digits := by
  rw [ofToken, if_neg (List.append_ne_nil_of_left_ne_nil idMark_ne_nil digits), Text.after?_eq_some_iff.2 rfl]

theorem ofToken_homeOrg (h : homeOrg <+: t) : ofToken t = .ok { uri := homeHost ++ t } := by
  have hne : t ≠ [] := by
    rintro rfl
    exact absurd h (by decide)
  rw [ofToken, if_neg hne, Text.after?_eq_none_iff.2 (not_idMark_of_homeOrg h)]
  simp only [if_pos (Text.beginsWith_iff.2 h)]

theorem ofToken_plain (hne : t ≠ []) (hid : ¬ idMark <+: t) (horg : ¬ homeOrg <+: t) :
    ofToken t = .ok { uri := t } := by
  rw [ofToken, if_neg hne, Text.after?_eq_none_iff.2 hid]
  simp only [if_neg (mt Text.beginsWith_iff.1 horg)]

/-- Digits that are read as a number. -/
structure IsNumber (digits : Text) : Prop where
  ne_nil : digits ≠ []
  isDigit : ∀ c ∈ digits, c.isDigit = true
  length_le : digits.length ≤ Numeral.digitLimit
  ne_zero : Numeral.toNat digits ≠ 0

theorem ofDigits_eq_ok_iff {token digits : Text} :
    ofDigits token digits = .ok r ↔ IsNumber digits ∧ r = { id := Numeral.toNat digits } := by
  unfold ofDigits
  split
  · next hd =>
    simp only [reduceCtorEq, false_iff, not_and]
    rintro ⟨hne, hall, -, -⟩
    rcases hd with hd | hd
    · exact absurd hd hne
    · exact absurd (List.all_eq_true.2 hall) hd
  split
  · next hl =>
    simp only [reduceCtorEq, false_iff, not_and]
    exact fun h => absurd h.length_le (by omega)
  split
  · next h0 =>
    simp only [reduceCtorEq, false_iff, not_and]
    exact fun h => absurd h0 h.ne_zero
  · next hd hl h0 =>
    simp only [not_or, not_not, List.all_eq_true] at hd
    simp only [Except.ok.injEq]
    constructor
    · intro h
      exact ⟨⟨hd.1, hd.2, by omega, h0⟩, h.symm⟩
    · exact fun h => h.2.symm

theorem isNumber_ofInt {n : Int} (h : 0 < n) (hw : Numeral.isWritable n = true) : IsNumber (Numeral.ofInt n) := by
  obtain ⟨m, rfl⟩ := Int.eq_ofNat_of_zero_le (Int.le_of_lt h)
  refine ⟨Numeral.ofNat_ne_nil m, fun _ => Numeral.isDigit_of_mem_ofNat, of_decide_eq_true hw, ?_⟩
  rw [Numeral.ofInt_natCast, Numeral.toNat_ofNat]
  omega

theorem ofToken_ofInt {n : Int} (h : 0 < n) (hw : Numeral.isWritable n = true) :
    ofToken (idMark ++ Numeral.ofInt n) = .ok { id := n } := by
  rw [ofToken_idMark, ofDigits_eq_ok_iff]
  refine ⟨isNumber_ofInt h hw, ?_⟩
  obtain ⟨m, rfl⟩ := Int.eq_ofNat_of_zero_le (Int.le_of_lt h)
  rw [Numeral.ofInt_natCast, Numeral.toNat_ofNat]

/-- What a token is read as: a number, a URI of the home organisation, or the token itself. -/
theorem ofToken_cases (h : ofToken t = .ok r) :
    (∃ digits, t = idMark ++ digits ∧ IsNumber digits ∧ r = { id := Numeral.toNat digits }) ∨
      (homeOrg <+: t ∧ r = { uri := homeHost ++ t }) ∨
      (t ≠ [] ∧ ¬ idMark <+: t ∧ ¬ homeOrg <+: t ∧ r = { uri := t }) := by
  have hne : t ≠ [] := by
    rintro rfl
    cases h
  by_cases hid : idMark <+: t
  · obtain ⟨digits, rfl⟩ := hid
    rw [ofToken_idMark, ofDigits_eq_ok_iff] at h
    exact .inl ⟨digits, rfl, h⟩
  by_cases horg : homeOrg <+: t
  · rw [ofToken_homeOrg horg] at h
    cases h
    exact .inr (.inl ⟨horg, rfl⟩)
  · rw [ofToken_plain hne hid horg] at h
    cases h
    exact .inr (.inr ⟨hne, hid, horg, rfl⟩)

/-! ## Reading back -/

/-- Read back are the numbers, and the URIs that begin neither with the mark of numbers nor with the home
organisation. -/
theorem ofToken_token_iff (h : r.token = .ok t) :
    ofToken t = .ok r.canonical ↔ 0 < r.id ∨ ¬ idMark <+: r.uri ∧ ¬ homeOrg <+: r.uri := by
  rcases token_eq_ok_iff.1 h with ⟨hid, hw, rfl⟩ | ⟨hid, hne, rfl⟩
  · simp [canonical, hid, ofToken_ofInt hid hw]
  simp only [canonical, hid, if_false, false_or]
  rcases shorten_cases r.uri with ⟨rest, horg, heq, hs⟩ | hs
  · -- the host that was left out is put back
    rw [hs, ofToken_homeOrg horg, ← heq]
    have hhost : homeHost <+: r.uri := ⟨rest, heq.symm⟩
    exact iff_of_true rfl ⟨not_idMark_of_homeHost hhost, not_homeOrg_of_homeHost hhost⟩
  rw [hs]
  constructor
  · intro hread
    rcases ofToken_cases hread with ⟨digits, -, -, hr⟩ | ⟨-, hr⟩ | ⟨-, hmark, horg, -⟩
    · -- what is read as a number has no URI
      exact absurd (Repo.mk.inj hr).1 hne
    · -- the host that is put in front was not there
      exact absurd (List.append_left_eq_self.1 (Repo.mk.inj hr).1.symm) homeHost_ne_nil
    · exact ⟨hmark, horg⟩
  · exact fun hplain => ofToken_plain hne hplain.1 hplain.2

theorem IsNumber.pos {digits : Text} (h : IsNumber digits) : (0 : Int) < Numeral.toNat digits := by
  have := h.ne_zero
  omega

theorem IsNumber.isWritable {digits : Text} (h : IsNumber digits) : Numeral.isWritable (Numeral.toNat digits) = true :=
  decide_eq_true ((Numeral.length_ofNat_toNat_le h.ne_nil h.isDigit).trans h.length_le)

/-- The token of a number that is read. -/
theorem IsNumber.token_eq {digits : Text} (h : IsNumber digits) :
    token { id := Numeral.toNat digits } = .ok (idMark ++ Numeral.ofNat (Numeral.toNat digits)) :=
  token_eq_ok_iff.2 (.inl ⟨h.pos, h.isWritable, rfl⟩)

/-- The token of a URI of the home organisation. -/
theorem token_homeHost_append (h : homeOrg <+: t) : token { uri := homeHost ++ t } = .ok t :=
  token_eq_ok_iff.2 (.inr ⟨by simp, List.append_ne_nil_of_left_ne_nil homeHost_ne_nil t, (shorten_append h).symm⟩)

theorem token_uri (hne : uri ≠ []) : token { uri := uri } = .ok (shorten uri) :=
  token_eq_ok_iff.2 (.inr ⟨by simp, hne, rfl⟩)

/-- What is read from a token is written as a token that is read the same. -/
theorem exists_token_of_ofToken (h : ofToken t = .ok r) : ∃ u, r.token = .ok u ∧ ofToken u = .ok r := by
  rcases ofToken_cases h with ⟨digits, -, hnum, rfl⟩ | ⟨horg, rfl⟩ | ⟨hne, hid, horg, rfl⟩
  · exact ⟨_, hnum.token_eq, ofToken_ofInt hnum.pos hnum.isWritable⟩
  · exact ⟨t, token_homeHost_append horg, h⟩
  · refine ⟨shorten t, token_uri hne, ?_⟩
    simpa [canonical] using (ofToken_token_iff (token_uri hne)).2 (.inr ⟨hid, horg⟩)

/-! ## Shared tokens -/

/-- Given by its number or by its URI, and not by both. -/
def IsCanonical (r : Repo) : Prop := (0 < r.id ∧ r.uri = []) ∨ (r.id = 0 ∧ r.uri ≠ [])

theorem IsCanonical.canonical_eq (h : r.IsCanonical) : r.canonical = r := by
  obtain ⟨uri, id⟩ := r
  rcases h with ⟨hid, huri⟩ | ⟨hid, huri⟩
  · cases huri
    exact if_pos hid
  · cases hid
    exact if_neg (Int.lt_irrefl 0)

/-- The two ways in which two references share a token. -/
inductive Collides : Repo → Repo → Prop where
  /-- A number, and a URI that spells its token. -/
  | number (n : Int) : Collides { id := n } { uri := idMark ++ Numeral.ofInt n }
  /-- A URI that begins with the home organisation, and the same behind the home host. -/
  | home (uri : Text) (h : homeOrg <+: uri) : Collides { uri := uri } { uri := homeHost ++ uri }

theorem Collides.token_eq (h : Collides r s) (hr : r.token = .ok t) (hs : s.token = .ok u) (hc : r.IsCanonical) :
    t = u := by
  cases h with
  | number n =>
    rcases token_eq_ok_iff.1 hs with ⟨hid, -⟩ | ⟨-, -, rfl⟩
    · exact absurd hid (by simp)
    rcases token_eq_ok_iff.1 hr with ⟨-, -, rfl⟩ | ⟨-, hne, -⟩
    · exact (shorten_of_not_homeHost (not_homeHost_of_idMark (List.prefix_append ..))).symm
    · exact absurd rfl hne
  | home uri horg =>
    rcases token_eq_ok_iff.1 hr with ⟨hid, -⟩ | ⟨-, -, rfl⟩
    · exact absurd hid (by simp)
    rcases token_eq_ok_iff.1 hs with ⟨hid, -⟩ | ⟨-, -, rfl⟩
    · exact absurd hid (by simp)
    exact shorten_eq_shorten_iff.2 (.inr (.inl ⟨horg, rfl⟩))

/-- A URI with the token of a number spells that token. -/
theorem collides_of_shorten_eq {n : Int} (h : shorten uri = idMark ++ Numeral.ofInt n) :
    Collides { id := n } { uri := uri } := by
  rcases shorten_cases uri with ⟨rest, horg, -, hs⟩ | hs
  · have hid : idMark <+: rest := ⟨Numeral.ofInt n, by rw [← h, hs]⟩
    exact absurd hid (not_idMark_of_homeOrg horg)
  · rw [← hs, h]
    exact .number n

/-- References that are given by their number or by their URI share a token only if they are equal or collide. -/
theorem token_eq_token_iff (hr : r.token = .ok t) (hs : s.token = .ok u) (cr : r.IsCanonical) (cs : s.IsCanonical) :
    t = u ↔ r = s ∨ Collides r s ∨ Collides s r := by
  constructor
  · rintro rfl
    rw [← cr.canonical_eq, ← cs.canonical_eq]
    rcases token_eq_ok_iff.1 hr with ⟨hid, hw, ht⟩ | ⟨hid, -, ht⟩
    · rcases token_eq_ok_iff.1 hs with ⟨hid', -, -⟩ | ⟨hid', -, ht'⟩
      · -- both are numbers, and the token is read as either
        have hread := (ofToken_token_iff hr).2 (.inl hid)
        rw [(ofToken_token_iff hs).2 (.inl hid')] at hread
        exact .inl (Except.ok.inj hread).symm
      · rw [canonical, canonical, if_pos hid, if_neg hid']
        exact .inr (.inl (collides_of_shorten_eq (ht' ▸ ht)))
    · rcases token_eq_ok_iff.1 hs with ⟨hid', -, ht'⟩ | ⟨hid', -, ht'⟩
      · rw [canonical, canonical, if_neg hid, if_pos hid']
        exact .inr (.inr (collides_of_shorten_eq (ht ▸ ht')))
      · rw [canonical, canonical, if_neg hid, if_neg hid']
        rcases shorten_eq_shorten_iff.1 (ht.symm.trans ht') with h | ⟨horg, h⟩ | ⟨horg, h⟩
        · exact .inl (by rw [h])
        · exact .inr (.inl (h ▸ .home _ horg))
        · exact .inr (.inr (h ▸ .home _ horg))
  · rintro (rfl | h | h)
    · exact Except.ok.inj (hr.symm.trans hs)
    · exact h.token_eq hr hs cr
    · exact (h.token_eq hs hr cs).symm

/-! ## Main statement -/

/-- What a token keeps of a repository: of those that are written, the numbers are read back, and the URIs that begin
neither with the mark of numbers nor with the home organisation. Of two that are given by their number or by their
URI, the tokens are equal only if the references are, or if the one is a URI that spells the number of the other, or
the other behind the home host. -/
theorem token_domain_and_collisions :
    (∀ (r : Repo) (t : Text), r.token = .ok t →
      (ofToken t = .ok r.canonical ↔ 0 < r.id ∨ ¬ idMark <+: r.uri ∧ ¬ homeOrg <+: r.uri)) ∧
    ∀ (r s : Repo) (t u : Text), r.token = .ok t → s.token = .ok u → r.IsCanonical → s.IsCanonical →
      (t = u ↔ r = s ∨ Collides r s ∨ Collides s r) :=
  ⟨fun _ _ h => ofToken_token_iff h, fun _ _ _ _ hr hs cr cs => token_eq_token_iff hr hs cr cs⟩

/-- A URI of the home organisation without the host is read with it, and shares the token of the URI with it. -/
theorem token_domain_and_collisions_home :
    ofToken "sourcegraph/x" ≠ .ok { uri := "sourcegraph/x" } ∧
      (({ uri := "sourcegraph/x" } : Repo) = { uri := "sourcegraph.com/sourcegraph/x" } ∨
        Collides { uri := "sourcegraph/x" } { uri := "sourcegraph.com/sourcegraph/x" } ∨
        Collides { uri := "sourcegraph.com/sourcegraph/x" } { uri := "sourcegraph/x" }) := by
  have hr : ({ uri := "sourcegraph/x" } : Repo).token = .ok "sourcegraph/x" := by decide
  have hs : ({ uri := "sourcegraph.com/sourcegraph/x" } : Repo).token = .ok "sourcegraph/x" := by decide
  obtain ⟨hdomain, hshared⟩ := token_domain_and_collisions
  constructor
  · intro h
    rcases (hdomain _ _ hr).1 h with h | ⟨-, h⟩
    · exact absurd h (by decide)
    · exact absurd (by decide) h
  · exact (hshared _ _ _ _ hr hs (.inr (by decide)) (.inr (by decide))).1 rfl

end CodeAddress.Repo

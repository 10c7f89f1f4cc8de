/-
The codec of deltas is a pair of revision codecs. Whichever form the head travels in, reading the route
variables of a delta has the outcome of reading those of its base and then those of its head
(`Delta.ofVars_eq_sides`): the delta of both, else the base's error, else the head's.

The two forms are told apart by the colon alone. A head within one repository is written only if its token
has none (`headWithin_eq_ok_iff`); across two repositories, what stands before the first colon is the base64url
form of the repository, which has none either, so the cut falls behind it even if the revision has more.

What is read as a delta is written again and read as the same (`exists_vars_of_ofVars`), whatever form it came in, but
for one kind of head: in the form across two repositories and yet of the base's own, with a colon in its revision. It
is read, and within one repository it cannot be written.
-/
import CodeAddress.Proofs.Outcome
import CodeAddress.Proofs.Ref.Revision
import CodeAddress.Proofs.Text.Base64Url
import CodeAddress.Proofs.Text.Basic
import CodeAddress.Proofs.Text.Utf8
import CodeAddress.Ref.Delta

namespace CodeAddress

namespace Delta

/-! ## Head tokens -/

theorem headWithin_eq_ok_iff {head : Revision} {t : Text} :
    headWithin head = .ok t ↔ head.token = .ok t ∧ crossMark ∉ t := by
  constructor
  · intro h
    obtain ⟨rev, hrev, h⟩ := exists_of_bind_eq_ok h
    split at h
    · cases h
    · next hm =>
      cases h
      exact ⟨hrev, hm⟩
  · rintro ⟨h, hm⟩
    simp only [headWithin, h, ok_bind, if_neg hm]
    rfl

theorem headAcross_eq_ok_iff {head : Revision} {t : Text} :
    headAcross head = .ok t ↔ ∃ repo rev, head.repo.token = .ok repo ∧ head.token = .ok rev ∧
      t = Base64Url.encode (Utf8.encode repo) ++ crossMark :: rev := by
  constructor
  · intro h
    obtain ⟨repo, hrepo, h⟩ := exists_of_bind_eq_ok h
    obtain ⟨rev, hrev, h⟩ := exists_of_bind_eq_ok h
    cases h
    exact ⟨repo, rev, hrepo, hrev, rfl⟩
  · rintro ⟨repo, rev, hrepo, hrev, rfl⟩
    simp only [headAcross, hrepo, hrev, ok_bind]
    rfl

/-- A head token without the mark is a revision of the base's repository. -/
theorem ofHeadToken_of_notMem {t : Text} (h : crossMark ∉ t) (baseRepo : Text) :
    ofHeadToken baseRepo t = Revision.ofTokens baseRepo t := by
  rw [ofHeadToken, Text.cut?_char_eq_none_iff.2 h]

/-- The base64url form of a repository token is read back, for every text. -/
theorem decodeRepo_encode (headToken repo : Text) :
    decodeRepo headToken (Base64Url.encode (Utf8.encode repo)) = .ok repo := by
  obtain ⟨spelling, hs, hd⟩ := Base64Url.reads_encode (Utf8.encode repo)
  simp only [decodeRepo, hs, hd, Utf8.decode_encode]

/-- The token of a head in another repository is read as its two tokens. -/
theorem ofHeadToken_across (baseRepo repo rev : Text) :
    ofHeadToken baseRepo (Base64Url.encode (Utf8.encode repo) ++ crossMark :: rev) = Revision.ofTokens repo rev := by
  have hm : crossMark ∉ Base64Url.encode (Utf8.encode repo) := Base64Url.colon_notMem_encode _
  simp only [ofHeadToken, Text.cut?_append_cons hm, decodeRepo_encode, ok_bind]

/-- A head token that a delta is written with is read as the two tokens of the head. -/
theorem ofHeadToken_headToken {d : Delta} {baseRepo t : Text} (hb : d.base.repo.token = .ok baseRepo)
    (ht : d.headToken = .ok t) :
    ∃ repo rev, d.head.repo.token = .ok repo ∧ d.head.token = .ok rev ∧
      ofHeadToken baseRepo t = Revision.ofTokens repo rev := by
  unfold headToken at ht
  split at ht
  · obtain ⟨repo, rev, hrepo, hrev, rfl⟩ := headAcross_eq_ok_iff.1 ht
    exact ⟨repo, rev, hrepo, hrev, ofHeadToken_across baseRepo repo rev⟩
  · next hc =>
    have hsame : d.base.repo = d.head.repo := by simpa [isCross] using hc
    obtain ⟨hrev, hm⟩ := headWithin_eq_ok_iff.1 ht
    exact ⟨baseRepo, t, hsame ▸ hb, hrev, ofHeadToken_of_notMem hm baseRepo⟩

/-- The head is the default branch of the base's own repository. -/
def HasDefaultHead (d : Delta) : Prop := d.base.repo = d.head.repo ∧ d.head.rev = [] ∧ d.head.commit = []

/-- A delta is written without a head token exactly if its head is the default branch of its base's repository. -/
theorem headToken_eq_nil_iff {d : Delta} {t : Text} (h : d.headToken = .ok t) : t = [] ↔ d.HasDefaultHead := by
  unfold headToken at h
  split at h
  · next hc =>
    obtain ⟨repo, rev, -, -, rfl⟩ := headAcross_eq_ok_iff.1 h
    -- across two repositories the token holds the mark at least
    constructor
    · intro he
      simp at he
    · rintro ⟨hsame, -⟩
      simp [isCross, hsame] at hc
  · next hc =>
    have hsame : d.base.repo = d.head.repo := by simpa [isCross] using hc
    -- within one repository the token is that of the head, which has the revision and the commit
    have htoken := (headWithin_eq_ok_iff.1 h).1
    unfold Revision.token at htoken
    split at htoken
    · next hcommit =>
      cases htoken
      exact ⟨fun hrev => ⟨hsame, hrev, hcommit⟩, fun h => h.2.1⟩
    split at htoken
    · cases htoken
    · next hcommit hrev =>
      cases htoken
      constructor
      · intro he
        simp [hrev] at he
      · exact fun h => absurd h.2.2 hcommit

/-! ## Deltas -/

theorem vars_eq_ok_iff {d : Delta} {v : Vars} :
    d.vars = .ok v ↔ ∃ repo rev head, d.base.repo.token = .ok repo ∧ d.base.token = .ok rev ∧
      d.headToken = .ok head ∧ v = [(Var.repo, repo), (Var.rev, rev), (Var.deltaHead, head)] := by
  constructor
  · intro h
    obtain ⟨base, hbase, h⟩ := exists_of_bind_eq_ok h
    obtain ⟨head, hhead, h⟩ := exists_of_bind_eq_ok h
    obtain ⟨repo, rev, hrepo, hrev, rfl⟩ := Revision.vars_eq_ok_iff.1 hbase
    cases h
    exact ⟨repo, rev, head, hrepo, hrev, hhead, rfl⟩
  · rintro ⟨repo, rev, head, hrepo, hrev, hhead, rfl⟩
    simp only [vars, Revision.vars_eq_ok_iff.2 ⟨repo, rev, hrepo, hrev, rfl⟩, hhead, ok_bind]
    rfl

/-- The variables of a delta are read as those of a base and a head token. -/
theorem ofVars_tokens (repo rev head : Text) :
    ofVars [(Var.repo, repo), (Var.rev, rev), (Var.deltaHead, head)] = do
      let base ← Revision.ofTokens repo rev
      let head ← ofHeadToken repo head
      return { base, head } := by
  have h1 : Var.deltaHead ≠ Var.repo := by decide
  have h2 : Var.deltaHead ≠ Var.rev := by decide
  simp [ofVars, Revision.ofVars_tokens, Vars.get_cons, h1, h2]

/-- Reading the variables of a delta is reading those of its base and then those of its head, with the same
outcome; in particular a delta is read back exactly if both of its sides are. -/
theorem ofVars_eq_sides {d : Delta} {v : Vars} (h : d.vars = .ok v) :
    ∃ base head, d.base.vars = .ok base ∧ d.head.vars = .ok head ∧
      (ofVars v = do
        let b ← Revision.ofVars base
        let h ← Revision.ofVars head
        return { base := b, head := h }) ∧
      (ofVars v = .ok d ↔ Revision.ofVars base = .ok d.base ∧ Revision.ofVars head = .ok d.head) := by
  obtain ⟨repo, rev, t, hrepo, hrev, ht, rfl⟩ := vars_eq_ok_iff.1 h
  obtain ⟨repo', rev', hrepo', hrev', hread⟩ := ofHeadToken_headToken hrepo ht
  have hsides : ofVars [(Var.repo, repo), (Var.rev, rev), (Var.deltaHead, t)] = do
      let b ← Revision.ofTokens repo rev
      let h ← Revision.ofTokens repo' rev'
      return { base := b, head := h } := by
    rw [ofVars_tokens, hread]
  refine ⟨_, _, Revision.vars_eq_ok_iff.2 ⟨repo, rev, hrepo, hrev, rfl⟩,
    Revision.vars_eq_ok_iff.2 ⟨repo', rev', hrepo', hrev', rfl⟩, ?_, ?_⟩
  · rw [Revision.ofVars_tokens, Revision.ofVars_tokens, hsides]
  · rw [Revision.ofVars_tokens, Revision.ofVars_tokens, hsides]
    constructor
    · intro hd
      obtain ⟨b, hb, hd⟩ := exists_of_bind_eq_ok hd
      obtain ⟨e, he, hd⟩ := exists_of_bind_eq_ok hd
      cases hd
      exact ⟨hb, he⟩
    · rintro ⟨hb, he⟩
      rw [hb, he]
      rfl

/-- A head in another repository whose URI is not ASCII and whose revision has the colon itself. -/
theorem ofVars_eq_sides_across :
    ∃ base head,
      (⟨⟨"a", 0⟩, "b", []⟩ : Revision).vars = .ok base ∧ (⟨⟨"é", 0⟩, "x:y", []⟩ : Revision).vars = .ok head ∧
      (ofVars [(Var.repo, "a"), (Var.rev, "b"), (Var.deltaHead, "w6k=:x:y")] = do
        let b ← Revision.ofVars base
        let h ← Revision.ofVars head
        return { base := b, head := h }) := by
  have h : (⟨⟨⟨"a", 0⟩, "b", []⟩, ⟨⟨"é", 0⟩, "x:y", []⟩⟩ : Delta).vars =
      .ok [(Var.repo, "a"), (Var.rev, "b"), (Var.deltaHead, "w6k=:x:y")] := by decide
  obtain ⟨base, head, hbase, hhead, hsides, -⟩ := ofVars_eq_sides h
  exact ⟨base, head, hbase, hhead, hsides⟩

/-! ## Written again -/

theorem ofVars_eq_ok_iff {v : Vars} {d : Delta} :
    ofVars v = .ok d ↔ Revision.ofTokens (v.get Var.repo) (v.get Var.rev) = .ok d.base ∧
      ofHeadToken (v.get Var.repo) (v.get Var.deltaHead) = .ok d.head := by
  constructor
  · intro h
    obtain ⟨base, hbase, h⟩ := exists_of_bind_eq_ok h
    obtain ⟨head, hhead, h⟩ := exists_of_bind_eq_ok h
    cases h
    exact ⟨hbase, hhead⟩
  · rintro ⟨hbase, hhead⟩
    rw [ofVars, Revision.ofVars, hbase, hhead]
    rfl

/-- A head is read from two tokens, of which that of the revision has the mark if the head token has it twice. -/
theorem exists_ofTokens_of_ofHeadToken {baseRepo t : Text} {head : Revision} (h : ofHeadToken baseRepo t = .ok head) :
    ∃ repo rev, Revision.ofTokens repo rev = .ok head ∧ (crossMark ∈ rev ↔ 1 < t.count crossMark) := by
  unfold ofHeadToken at h
  split at h
  · next encoded rev hcut =>
    obtain ⟨repo, -, hread⟩ := exists_of_bind_eq_ok h
    refine ⟨repo, rev, hread, ?_⟩
    -- the token is cut at its first mark, so all the others are in the revision
    obtain ⟨rfl, hfirst⟩ := (Text.cut?_eq_some_iff (by simp)).1 hcut
    rw [List.dropLast_singleton, List.append_nil, List.singleton_infix_iff] at hfirst
    rw [List.count_append, List.singleton_append, List.count_cons_self, List.count_eq_zero.2 hfirst,
      ← List.count_pos_iff]
    omega
  · next hcut =>
    have hno := Text.cut?_char_eq_none_iff.1 hcut
    refine ⟨baseRepo, t, h, ?_⟩
    rw [List.count_eq_zero.2 hno]
    exact iff_of_false hno (by omega)

/-- A head is written if its tokens are, but for one with the mark in the base's repository. -/
theorem exists_headToken {d : Delta} {repo rev : Text} (hrepo : d.head.repo.token = .ok repo)
    (hrev : d.head.token = .ok rev) (h : ¬ (d.base.repo = d.head.repo ∧ crossMark ∈ rev)) :
    ∃ t, d.headToken = .ok t := by
  by_cases hsame : d.base.repo = d.head.repo
  · have hwithin : d.headToken = headWithin d.head := by simp [headToken, isCross, hsame]
    exact ⟨rev, hwithin ▸ headWithin_eq_ok_iff.2 ⟨hrev, fun hm => h ⟨hsame, hm⟩⟩⟩
  · have hacross : d.headToken = headAcross d.head := by simp [headToken, isCross, hsame]
    exact ⟨_, hacross ▸ headAcross_eq_ok_iff.2 ⟨repo, rev, hrepo, hrev, rfl⟩⟩

theorem vars_of_colon {d : Delta} {repo rev t : Text} (hrepo : d.base.repo.token = .ok repo)
    (hrev : d.base.token = .ok rev) (hsame : d.base.repo = d.head.repo) (ht : d.head.token = .ok t)
    (hm : crossMark ∈ t) : d.vars = .error (.colonInHead t) := by
  have hhead : d.headToken = .error (.colonInHead t) := by
    simp only [headToken, isCross, hsame, bne_self_eq_false, Bool.false_eq_true, if_false, headWithin, ht, ok_bind,
      if_pos hm]
    rfl
  rw [vars, Revision.vars_eq_ok_iff.2 ⟨repo, rev, hrepo, hrev, rfl⟩, hhead]
  rfl

/-- What is read as a delta is written again and read as the same, unless its head token has the mark twice and yet
gives the base's own repository: within one repository a revision with the mark is not written. -/
theorem exists_vars_of_ofVars {v : Vars} {d : Delta} (h : ofVars v = .ok d) :
    (¬ (d.base.repo = d.head.repo ∧ 1 < (v.get Var.deltaHead).count crossMark) →
      ∃ w, d.vars = .ok w ∧ ofVars w = .ok d) ∧
    (d.base.repo = d.head.repo ∧ 1 < (v.get Var.deltaHead).count crossMark →
      ∃ t, d.head.token = .ok t ∧ d.vars = .error (.colonInHead t)) := by
  obtain ⟨hbase, hhead⟩ := ofVars_eq_ok_iff.1 h
  obtain ⟨repo, rev, hrepo, hrev, hbase', -⟩ := Revision.exists_tokens_of_ofTokens hbase
  obtain ⟨_, readRev, hread, hcount⟩ := exists_ofTokens_of_ofHeadToken hhead
  obtain ⟨headRepo, headRev, hheadRepo, hheadRev, hhead', hrest⟩ := Revision.exists_tokens_of_ofTokens hread
  -- the mark of commits that may be left out behind the revision has no colon
  have hmem : crossMark ∈ headRev ↔ crossMark ∈ readRev := by
    rcases hrest with rfl | rfl
    · rfl
    · have hmark : crossMark ∉ Revision.commitMark := by decide
      simp only [List.mem_append, hmark, or_false]
  rw [← hcount, ← hmem]
  constructor
  · intro hcolon
    obtain ⟨t, ht⟩ := exists_headToken hheadRepo hheadRev hcolon
    refine ⟨_, vars_eq_ok_iff.2 ⟨repo, rev, t, hrepo, hrev, ht, rfl⟩, ?_⟩
    obtain ⟨x, y, hx, hy, hread⟩ := ofHeadToken_headToken hrepo ht
    rw [hheadRepo] at hx
    rw [hheadRev] at hy
    cases hx
    cases hy
    rw [ofVars_tokens, hbase', ok_bind, hread, hhead']
    rfl
  · rintro ⟨hsame, hm⟩
    exact ⟨headRev, hheadRev, vars_of_colon hrepo hrev hsame hheadRev hm⟩

/-- A head in the base's own repository as if it were in another, with a colon and without. -/
theorem exists_vars_of_ofVars_own :
    (∃ t, (⟨⟨"r", 0⟩, "a:b", []⟩ : Revision).token = .ok t ∧
      (⟨⟨⟨"r", 0⟩, [], []⟩, ⟨⟨"r", 0⟩, "a:b", []⟩⟩ : Delta).vars = .error (.colonInHead t)) ∧
    ∃ w, (⟨⟨⟨"r", 0⟩, [], []⟩, ⟨⟨"r", 0⟩, "a", []⟩⟩ : Delta).vars = .ok w ∧
      ofVars w = .ok ⟨⟨⟨"r", 0⟩, [], []⟩, ⟨⟨"r", 0⟩, "a", []⟩⟩ := by
  have hcolon : ofVars [(Var.repo, "r"), (Var.deltaHead, "cg==:a:b")] =
      .ok ⟨⟨⟨"r", 0⟩, [], []⟩, ⟨⟨"r", 0⟩, "a:b", []⟩⟩ := by decide +kernel
  have hplain : ofVars [(Var.repo, "r"), (Var.deltaHead, "cg==:a")] =
      .ok ⟨⟨⟨"r", 0⟩, [], []⟩, ⟨⟨"r", 0⟩, "a", []⟩⟩ := by decide +kernel
  exact ⟨(exists_vars_of_ofVars hcolon).2 ⟨rfl, by decide +kernel⟩,
    (exists_vars_of_ofVars hplain).1 (by decide +kernel)⟩

/-- Not every delta that is read can be written. -/
theorem not_forall_exists_vars : ¬ ∀ v d, ofVars v = .ok d → ∃ w, d.vars = .ok w ∧ ofVars w = .ok d := by
  intro h
  have hread : ofVars [(Var.repo, "r"), (Var.deltaHead, "cg==:a:b")] =
      .ok ⟨⟨⟨"r", 0⟩, [], []⟩, ⟨⟨"r", 0⟩, "a:b", []⟩⟩ := by decide +kernel
  have hwrite : (⟨⟨⟨"r", 0⟩, [], []⟩, ⟨⟨"r", 0⟩, "a:b", []⟩⟩ : Delta).vars = .error (.colonInHead "a:b") := by
    decide +kernel
  obtain ⟨w, hw, -⟩ := h _ _ hread
  rw [hwrite] at hw
  cases hw

end Delta

end CodeAddress

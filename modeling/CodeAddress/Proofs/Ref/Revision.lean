/-
The token of a revision. Of the revisions that are written, exactly those are read back whose repository is, and whose
text neither has the mark `===` nor, with a commit behind it, ends with `=` (`ofVars_vars_iff`): the token is cut at
its first mark, which is the one that was written only if none ends before it, and a mark that begins in the revision
and ends in the written one needs an `=` at the end of the revision (`commitMark_infix_append_iff`).

What is read is cut there already, so it is written again and read as the same; the token is then the one that was
read, or the same without a mark that nothing followed (`exists_tokens_of_ofTokens`).
-/
import CodeAddress.Proofs.Ref.Repo
import CodeAddress.Ref.Revision

namespace CodeAddress.Revision

variable {r : Revision} {t a b : Text}

/-! ## Writing -/

theorem token_eq_ok_iff :
    r.token = .ok t ↔ (r.commit = [] ∧ t = r.rev) ∨
      (r.commit ≠ [] ∧ r.rev ≠ [] ∧ t = r.rev ++ (commitMark ++ r.commit)) := by
  unfold token
  by_cases hc : r.commit = []
  · rw [if_pos hc, Except.ok.injEq, eq_comm]
    simp only [hc, true_and, ne_eq, not_true_eq_false, false_and, or_false]
  rw [if_neg hc]
  by_cases hr : r.rev = []
  · simp only [hc, hr, if_true, reduceCtorEq, ne_eq, not_true_eq_false, false_and, and_false, or_false]
  · rw [if_neg hr, Except.ok.injEq, eq_comm, List.append_assoc]
    simp only [hc, hr, ne_eq, not_false_eq_true, true_and, false_and, false_or]

theorem vars_eq_ok_iff {r : Revision} {v : Vars} :
    r.vars = .ok v ↔ ∃ repo rev, r.repo.token = .ok repo ∧ r.token = .ok rev ∧
      v = [(Var.repo, repo), (Var.rev, rev)] := by
  constructor
  · intro h
    obtain ⟨repo, hrepo, h⟩ := exists_of_bind_eq_ok h
    obtain ⟨rev, hrev, h⟩ := exists_of_bind_eq_ok h
    cases h
    exact ⟨repo, rev, hrepo, hrev, rfl⟩
  · rintro ⟨repo, rev, hrepo, hrev, rfl⟩
    simp only [vars, hrepo, hrev, ok_bind]
    rfl

/-- The two variables of a revision are read as its two tokens, whatever variables stand behind them. -/
theorem ofVars_tokens (repo rev : Text) (more : Vars) :
    ofVars ((Var.repo, repo) :: (Var.rev, rev) :: more) = ofTokens repo rev := by
  have hne : Var.rev ≠ Var.repo := by decide
  simp [ofVars, Vars.get_cons, hne]

/-! ## The first mark -/

theorem commitMark_ne_nil : commitMark ≠ [] := by decide

/-- A mark that ends before the one behind a text does lies in the text, or begins at the end of it. -/
theorem commitMark_infix_append_iff :
    commitMark <:+: a ++ commitMark.dropLast ↔ commitMark <:+: a ∨ ['='] <:+ a := by
  constructor
  · intro h
    induction a with
    | nil => exact absurd h (by decide)
    | cons c a ih =>
      rw [List.cons_append, List.infix_cons_iff] at h
      rcases h with h | h
      · -- the mark begins the text, of which one, two or three characters belong to it
        obtain ⟨rest, hrest⟩ := h
        change '=' :: '=' :: '=' :: rest = c :: (a ++ ['=', '=']) at hrest
        rcases a with _ | ⟨d, _ | ⟨e, a⟩⟩
        · cases hrest
          exact .inr List.suffix_rfl
        · cases hrest
          exact .inr (List.suffix_cons '=' ['='])
        · cases hrest
          exact .inl (List.prefix_append commitMark a).isInfix
      · rcases ih h with h | h
        · exact .inl (h.trans (List.suffix_cons c a).isInfix)
        · exact .inr (h.trans (List.suffix_cons c a))
  · rintro (h | ⟨init, rfl⟩)
    · exact h.trans (List.prefix_append a _).isInfix
    · rw [List.append_assoc]
      exact (List.suffix_append init commitMark).isInfix

/-- How a token is split: where it has no mark, it is all revision; else it is cut at the first. -/
theorem splitToken_eq_iff :
    splitToken t = (a, b) ↔ (t = a ∧ b = [] ∧ ¬ commitMark <:+: a) ∨
      (t = a ++ (commitMark ++ b) ∧ ¬ commitMark <:+: a ∧ ¬ ['='] <:+ a) := by
  rw [← not_or, ← commitMark_infix_append_iff, ← Text.cut?_eq_some_iff commitMark_ne_nil, splitToken]
  cases hcut : Text.cut? commitMark t with
  | none =>
    have hno := (Text.cut?_eq_none_iff commitMark_ne_nil).1 hcut
    simp only [Option.getD_none, Prod.mk.injEq, reduceCtorEq, or_false]
    constructor
    · rintro ⟨rfl, rfl⟩
      exact ⟨rfl, rfl, hno⟩
    · rintro ⟨rfl, rfl, -⟩
      exact ⟨rfl, rfl⟩
  | some p =>
    have hmark : commitMark <:+: t := by
      rw [Text.eq_append_of_cut? (show Text.cut? commitMark t = some (p.1, p.2) from hcut)]
      exact ⟨p.1, p.2, List.append_assoc ..⟩
    simp only [Option.getD_some, Option.some.injEq]
    refine ⟨.inr, fun h => h.resolve_left ?_⟩
    rintro ⟨rfl, -, hno⟩
    exact hno hmark

/-- The token of a revision is split into the revision and its commit, unless the revision has a mark or makes one
with the mark behind it. -/
theorem splitToken_token_iff (h : r.token = .ok t) :
    splitToken t = (r.rev, r.commit) ↔ ¬ commitMark <:+: r.rev ∧ ¬ (r.commit ≠ [] ∧ ['='] <:+ r.rev) := by
  rw [splitToken_eq_iff]
  rcases token_eq_ok_iff.1 h with ⟨hc, rfl⟩ | ⟨hc, -, rfl⟩
  · have hlen : r.rev ≠ r.rev ++ (commitMark ++ r.commit) := fun heq => by
      have := congrArg List.length heq
      simp [hc, commitMark] at this
    simp only [hlen, false_and, or_false, true_and]
    simp only [hc, ne_eq, not_true_eq_false, false_and, not_false_eq_true, and_true, true_and]
  · simp only [hc, ne_eq, not_false_eq_true, true_and, false_and, and_false, false_or]

/-! ## Reading -/

theorem ofTokens_eq_ok_iff {repo rev : Text} :
    ofTokens repo rev = .ok r ↔
      Repo.ofToken repo = .ok r.repo ∧ splitToken rev = (r.rev, r.commit) ∧ ¬ (r.rev = [] ∧ r.commit ≠ []) := by
  constructor
  · intro h
    obtain ⟨x, hx, h⟩ := exists_of_bind_eq_ok h
    dsimp only at h
    split at h
    · cases h
    · next hempty =>
      cases h
      exact ⟨hx, rfl, hempty⟩
  · rintro ⟨hrepo, hsplit, hempty⟩
    unfold ofTokens
    rw [hrepo, ok_bind, hsplit]
    exact if_neg hempty

/-- What was split from a token is written as that token, up to a mark that nothing followed. -/
theorem token_of_splitToken {rev : Text} (h : splitToken rev = (r.rev, r.commit)) (ht : r.token = .ok t) :
    rev = t ∨ rev = t ++ commitMark := by
  rcases splitToken_eq_iff.1 h with ⟨hrev, hc, -⟩ | ⟨hrev, -, -⟩
  · rcases token_eq_ok_iff.1 ht with ⟨-, ht⟩ | ⟨hc', -, -⟩
    · exact .inl (hrev.trans ht.symm)
    · exact absurd hc hc'
  · rcases token_eq_ok_iff.1 ht with ⟨hc, ht⟩ | ⟨-, -, ht⟩
    · rw [hc, List.append_nil, ← ht] at hrev
      exact .inr hrev
    · exact .inl (hrev.trans ht.symm)

theorem exists_token (h : ¬ (r.rev = [] ∧ r.commit ≠ [])) : ∃ t, r.token = .ok t := by
  by_cases hc : r.commit = []
  · exact ⟨_, token_eq_ok_iff.2 (.inl ⟨hc, rfl⟩)⟩
  · exact ⟨_, token_eq_ok_iff.2 (.inr ⟨hc, fun hr => h ⟨hr, hc⟩, rfl⟩)⟩

/-- What is read from two tokens is written as two tokens that are read the same, of which that of the revision is the
one that was read, up to a mark that nothing follows. -/
theorem exists_tokens_of_ofTokens {repo rev : Text} (h : ofTokens repo rev = .ok r) :
    ∃ repo' rev', r.repo.token = .ok repo' ∧ r.token = .ok rev' ∧ ofTokens repo' rev' = .ok r ∧
      (rev = rev' ∨ rev = rev' ++ commitMark) := by
  obtain ⟨hrepo, hsplit, hempty⟩ := ofTokens_eq_ok_iff.1 h
  obtain ⟨repo', htoken, hread⟩ := Repo.exists_token_of_ofToken hrepo
  obtain ⟨rev', hrev'⟩ := exists_token hempty
  -- what was cut at its first mark has none that ends before the one that is written
  have hsplit' : splitToken rev' = (r.rev, r.commit) := by
    rw [splitToken_token_iff hrev']
    rcases splitToken_eq_iff.1 hsplit with ⟨-, hc, hno⟩ | ⟨-, hno, hend⟩
    · exact ⟨hno, fun h => h.1 hc⟩
    · exact ⟨hno, fun h => hend h.2⟩
  exact ⟨repo', rev', htoken, hrev', ofTokens_eq_ok_iff.2 ⟨hread, hsplit', hempty⟩, token_of_splitToken hsplit hrev'⟩

/-! ## Main statement -/

/-- A revision that is written is read back, but for what its repository is given by in excess, exactly if its
repository is, its text has no mark, and it does not end with the first character of the mark that a commit puts
behind it. -/
theorem ofVars_vars_iff {v : Vars} (h : r.vars = .ok v) :
    ofVars v = .ok { r with repo := r.repo.canonical } ↔
      (∃ t, r.repo.token = .ok t ∧ Repo.ofToken t = .ok r.repo.canonical) ∧ ¬ commitMark <:+: r.rev ∧
        ¬ (r.commit ≠ [] ∧ ['='] <:+ r.rev) := by
  obtain ⟨repo, rev, hrepo, hrev, rfl⟩ := vars_eq_ok_iff.1 h
  have hempty : ¬ (r.rev = [] ∧ r.commit ≠ []) := by
    rintro ⟨hr, hc⟩
    rcases token_eq_ok_iff.1 hrev with ⟨hc', -⟩ | ⟨-, hr', -⟩
    · exact hc hc'
    · exact hr' hr
  rw [ofVars_tokens, ofTokens_eq_ok_iff, ← splitToken_token_iff hrev]
  constructor
  · rintro ⟨hread, hsplit, -⟩
    exact ⟨⟨repo, hrepo, hread⟩, hsplit⟩
  · rintro ⟨⟨t, ht, hread⟩, hsplit⟩
    rw [hrepo] at ht
    cases ht
    exact ⟨hread, hsplit, hempty⟩

/-- With a commit behind it a revision that ends with `=` is cut one place early; without one it is read back. -/
theorem ofVars_vars_iff_equals :
    ofVars [(Var.repo, "R$7"), (Var.rev, "a====c")] ≠ .ok { repo := { id := 7 }, rev := "a=", commit := "c" } ∧
      ofVars [(Var.repo, "R$7"), (Var.rev, "a=")] = .ok { repo := { id := 7 }, rev := "a=" } := by
  have hrepo : ∃ t, ({ uri := "x", id := 7 } : Repo).token = .ok t ∧ Repo.ofToken t = .ok { id := 7 } :=
    ⟨"R$7", by decide +kernel, by decide +kernel⟩
  have hpinned : vars { repo := { uri := "x", id := 7 }, rev := "a=", commit := "c" } =
      .ok [(Var.repo, "R$7"), (Var.rev, "a====c")] := by decide +kernel
  have hplain : vars { repo := { uri := "x", id := 7 }, rev := "a=" } = .ok [(Var.repo, "R$7"), (Var.rev, "a=")] := by
    decide +kernel
  constructor
  · intro h
    exact ((ofVars_vars_iff hpinned).1 h).2.2 (by decide)
  · exact (ofVars_vars_iff hplain).2 ⟨hrepo, by decide, by decide⟩

end CodeAddress.Revision

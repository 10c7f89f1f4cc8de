/-
Tokens in normal form. What is read from the tokens of a repository and a revision is written as two tokens that are
read the same (`Revision.exists_tokens_of_ofTokens`). They are the ones that were read unless one of these is spelled
otherwise than it is written: a number with leading zeros, a URI of the home organisation with its host, or a revision
with the mark of commits and no commit behind it (`Revision.vars_of_ofTokens`).
-/
import CodeAddress.Proofs.Ref.Revision

namespace CodeAddress

/-! ## Repositories -/

namespace Repo

variable {r : Repo} {t u digits : Text}

/-- The mark of numbers and digits that begin with a zero. -/
def HasLeadingZero (t : Text) : Prop := ∃ digits, t = idMark ++ '0' :: digits ∧ ∀ c ∈ digits, c.isDigit = true

/-- The home host in front of the home organisation. -/
def HasHomeHost (t : Text) : Prop := homeHost ++ homeOrg <+: t

theorem HasHomeHost.homeHost_prefix (h : HasHomeHost t) : homeHost <+: t := (List.prefix_append ..).trans h

theorem HasLeadingZero.idMark_prefix (h : HasLeadingZero t) : idMark <+: t := by
  obtain ⟨digits, rfl, -⟩ := h
  exact List.prefix_append ..

theorem hasLeadingZero_append_iff (hd : ∀ c ∈ digits, c.isDigit = true) :
    HasLeadingZero (idMark ++ digits) ↔ ['0'] <+: digits := by
  constructor
  · rintro ⟨rest, heq, -⟩
    rw [List.append_cancel_left heq]
    exact List.prefix_append ['0'] rest
  · rintro ⟨rest, rfl⟩
    exact ⟨rest, rfl, fun c hc => hd c (List.mem_cons_of_mem _ hc)⟩

/-- Shortening takes something away exactly from a URI of the home organisation with its host. -/
theorem shorten_eq_self_iff : shorten t = t ↔ ¬ HasHomeHost t := by
  constructor
  · rintro hs ⟨rest, rfl⟩
    rw [List.append_assoc, shorten_append (List.prefix_append ..)] at hs
    exact homeHost_ne_nil (List.append_left_eq_self.1 hs.symm)
  · intro hno
    rcases shorten_cases t with ⟨rest, ⟨tail, rfl⟩, rfl, -⟩ | hs
    · exact absurd ⟨tail, List.append_assoc ..⟩ hno
    · exact hs

/-- A token that was read is written again exactly if it has neither a leading zero nor the home host. -/
theorem token_eq_iff (h : ofToken t = .ok r) (hu : r.token = .ok u) :
    u = t ↔ ¬ HasLeadingZero t ∧ ¬ HasHomeHost t := by
  rcases ofToken_cases h with ⟨digits, rfl, hnum, rfl⟩ | ⟨horg, rfl⟩ | ⟨hne, hid, horg, rfl⟩
  · have hhost : ¬ HasHomeHost (idMark ++ digits) := fun hh =>
      not_homeHost_of_idMark (List.prefix_append ..) hh.homeHost_prefix
    rw [hnum.token_eq] at hu
    cases hu
    rw [List.append_cancel_left_eq, Numeral.ofNat_toNat_eq_iff hnum.ne_nil hnum.isDigit hnum.ne_zero,
      hasLeadingZero_append_iff hnum.isDigit, and_iff_left hhost]
  · rw [token_homeHost_append horg] at hu
    cases hu
    refine iff_of_true rfl ⟨fun hz => ?_, fun hh => ?_⟩
    · exact not_idMark_of_homeOrg horg hz.idMark_prefix
    · exact not_homeHost_of_homeOrg horg hh.homeHost_prefix
  · have hzero : ¬ HasLeadingZero t := fun hz => hid hz.idMark_prefix
    rw [token_uri hne] at hu
    cases hu
    rw [shorten_eq_self_iff, and_iff_right hzero]

end Repo

/-! ## Revisions -/

namespace Revision

variable {r : Revision} {t u : Text}

/-- The first mark of commits has nothing behind it. -/
def HasBareMark (t : Text) : Prop := ∃ rev, t = rev ++ commitMark ∧ ¬ commitMark <:+: rev ++ commitMark.dropLast

theorem hasBareMark_iff : HasBareMark t ↔ ∃ rev, Text.cut? commitMark t = some (rev, []) := by
  apply exists_congr
  intro rev
  rw [Text.cut?_eq_some_iff commitMark_ne_nil, List.append_nil]

/-- A revision token that was read is written again exactly if it has no mark in vain. -/
theorem token_eq_iff (hsplit : splitToken t = (r.rev, r.commit)) (hu : r.token = .ok u) : u = t ↔ ¬ HasBareMark t := by
  rw [hasBareMark_iff]
  unfold splitToken at hsplit
  cases hcut : Text.cut? commitMark t with
  | none =>
    rw [hcut] at hsplit
    obtain ⟨hrev, hcommit⟩ := Prod.mk.inj hsplit
    rcases token_eq_ok_iff.1 hu with ⟨-, rfl⟩ | ⟨hne, -⟩
    · exact iff_of_true hrev.symm (by simp)
    · exact absurd hcommit.symm hne
  | some p =>
    rw [hcut] at hsplit
    cases hsplit
    have heq := Text.eq_append_of_cut? hcut
    rcases token_eq_ok_iff.1 hu with ⟨hcommit, rfl⟩ | ⟨hne, -, rfl⟩
    · -- the mark is left out
      rw [hcommit, List.append_nil] at heq
      refine iff_of_false (fun h => ?_) (fun h => h ⟨r.rev, by rw [hcommit]⟩)
      rw [heq] at h
      exact commitMark_ne_nil (List.append_right_eq_self.1 h.symm)
    · refine iff_of_true heq.symm ?_
      rintro ⟨rev, h⟩
      exact hne (Prod.mk.inj (Option.some.inj h)).2

/-- What is read from a token of a repository and one of a revision can be written, and is read from its route variables
again. These are the two tokens exactly if the repository has no leading zero in its number and no host in front of
the home organisation, and the revision no mark that nothing follows. -/
theorem vars_of_ofTokens {repo rev : Text} (h : ofTokens repo rev = .ok r) :
    ∃ repo' rev', r.vars = .ok [(Var.repo, repo'), (Var.rev, rev')] ∧
      ofVars [(Var.repo, repo'), (Var.rev, rev')] = .ok r ∧
      (repo' = repo ∧ rev' = rev ↔ ¬ Repo.HasLeadingZero repo ∧ ¬ Repo.HasHomeHost repo ∧ ¬ HasBareMark rev) := by
  obtain ⟨hrepo, hsplit, -⟩ := ofTokens_eq_ok_iff.1 h
  obtain ⟨repo', rev', hrepo', hrev', hread, -⟩ := exists_tokens_of_ofTokens h
  refine ⟨repo', rev', vars_eq_ok_iff.2 ⟨repo', rev', hrepo', hrev', rfl⟩, ?_, ?_⟩
  · rw [ofVars_tokens]
    exact hread
  · rw [Repo.token_eq_iff hrepo hrepo', token_eq_iff hsplit hrev', and_assoc]

/-- A number with a leading zero is not written again; four equals signs are a mark and a commit. -/
theorem vars_of_ofTokens_zero :
    ofTokens "R$07" "a====" = .ok { repo := { id := 7 }, rev := "a", commit := "=" } ∧
      ∃ repo' rev', vars { repo := { id := 7 }, rev := "a", commit := "=" } = .ok [(Var.repo, repo'), (Var.rev, rev')] ∧
        ¬ (repo' = "R$07" ∧ rev' = "a====") := by
  have h : ofTokens "R$07" "a====" = .ok { repo := { id := 7 }, rev := "a", commit := "=" } := by decide +kernel
  obtain ⟨repo', rev', hvars, -, hsame⟩ := vars_of_ofTokens h
  refine ⟨h, repo', rev', hvars, fun heq => ?_⟩
  exact (hsame.1 heq).1 ⟨"7", rfl, List.all_eq_true.1 rfl⟩

end Revision

end CodeAddress

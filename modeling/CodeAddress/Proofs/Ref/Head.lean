/-
How strictly the head of a delta in another repository is read. Behind a base that is read, a head token is refused for
the spelling of its repository exactly if the text before the first colon is neither base64url with the pads it needs
nor whole groups with pads they do not need (`Delta.ofVars_head`). The latter make several tokens for one delta: the
pads are read as if they were not there.
-/
import CodeAddress.Proofs.Ref.Delta
import CodeAddress.Proofs.Ref.Refusal

namespace CodeAddress

namespace Delta

open Base64Url (Reads WellPadded Overpadded)

variable {headToken encoded rev : Text}

/-! ## The repository of a head -/

/-- The reasons against the spelling of a repository, before the bytes it spells are looked at. -/
def Misspelt (reason : DecodeError.Reason) : Prop :=
  reason = .notBase64Url ∨ ∃ fault, reason = .badBase64 fault

/-- The error about a head token. -/
def headError (headToken : Text) (reason : DecodeError.Reason) : DecodeError :=
  .invalid .deltaHead Var.deltaHead headToken reason

theorem headError_inj {reason reason' : DecodeError.Reason}
    (h : headError headToken reason = headError headToken reason') :
    reason = reason' := by
  cases h
  rfl

/-- A text that spells bytes gives the text that these encode. -/
theorem decodeRepo_of_reads {bytes : List UInt8} (h : Reads encoded bytes) :
    decodeRepo headToken encoded = (Utf8.decode bytes).mapError fun fault => headError headToken (.badUtf8 fault) := by
  obtain ⟨spelling, hs, hd⟩ := h
  simp only [decodeRepo, hs, hd]
  cases Utf8.decode bytes with
  | error fault => rfl
  | ok token => rfl

/-- A text that spells none is refused. -/
theorem exists_decodeRepo_eq_error (headToken : Text) (h : ¬ ∃ bytes, Reads encoded bytes) :
    ∃ reason, Misspelt reason ∧ decodeRepo headToken encoded = .error (headError headToken reason) := by
  unfold decodeRepo
  dsimp only
  split
  · exact ⟨_, .inl rfl, rfl⟩
  next spelling hs =>
  split
  · next fault hd => exact ⟨_, .inr ⟨fault, rfl⟩, rfl⟩
  · next bytes hd => exact absurd ⟨bytes, spelling, hs, hd⟩ h

/-- What a text gives does not depend on the head token it stands in. -/
theorem decodeRepo_eq_ok_iff {repo : Text} :
    decodeRepo headToken encoded = .ok repo ↔ ∃ bytes, Reads encoded bytes ∧ Utf8.decode bytes = .ok repo := by
  constructor
  · intro h
    by_cases hreads : ∃ bytes, Reads encoded bytes
    · obtain ⟨bytes, hb⟩ := hreads
      refine ⟨bytes, hb, ?_⟩
      rwa [decodeRepo_of_reads hb, mapError_eq_ok_iff] at h
    · obtain ⟨reason, -, he⟩ := exists_decodeRepo_eq_error headToken hreads
      rw [he] at h
      cases h
  · rintro ⟨bytes, hb, hd⟩
    rw [decodeRepo_of_reads hb, hd]
    rfl

/-! ## Heads -/

theorem ofHeadToken_append (baseRepo : Text) (h : crossMark ∉ encoded) :
    ofHeadToken baseRepo (encoded ++ crossMark :: rev) =
      decodeRepo (encoded ++ crossMark :: rev) encoded >>= fun repo => Revision.ofTokens repo rev := by
  simp only [ofHeadToken, Text.cut?_append_cons h]

/-- The tokens of a revision are refused for none of the reasons of a head. -/
theorem ofTokens_ne_headError (repo rev headToken : Text) (reason : DecodeError.Reason) :
    Revision.ofTokens repo rev ≠ .error (headError headToken reason) := by
  intro he
  have hanswers := Revision.answers_ofTokens repo rev
  by_cases hlong : Repo.IsOverlong repo
  · obtain ⟨n, -, hn⟩ := hanswers.tooLong hlong
    rw [hn] at he
    cases he
  rcases hanswers.typed hlong with ⟨r, hr⟩ | ⟨kind, field, value, reason', hmem, hr⟩
  · rw [hr] at he
    cases he
  · rw [hr] at he
    cases he
    exact absurd hmem (by decide)

/-- A head token with the mark is refused for its spelling exactly if the text before the mark spells no bytes. -/
theorem ofHeadToken_eq_misspelt_iff (baseRepo : Text) (h : crossMark ∉ encoded) :
    (∃ reason, Misspelt reason ∧ ofHeadToken baseRepo (encoded ++ crossMark :: rev) =
      .error (headError (encoded ++ crossMark :: rev) reason)) ↔ ¬ ∃ bytes, Reads encoded bytes := by
  rw [ofHeadToken_append baseRepo h]
  constructor
  · rintro ⟨reason, hm, he⟩ ⟨bytes, hb⟩
    rw [decodeRepo_of_reads hb] at he
    cases hd : Utf8.decode bytes with
    | error fault =>
      -- the bytes are refused, which is another reason
      rw [hd] at he
      cases headError_inj (Except.error.inj he)
      rcases hm with hm | ⟨_, hm⟩ <;> cases hm
    | ok repo =>
      rw [hd] at he
      exact ofTokens_ne_headError repo rev _ reason he
  · intro hno
    obtain ⟨reason, hm, he⟩ := exists_decodeRepo_eq_error (encoded ++ crossMark :: rev) hno
    refine ⟨reason, hm, ?_⟩
    rw [he]
    rfl

theorem ofHeadToken_eq_ok_iff {baseRepo : Text} {head : Revision} (h : crossMark ∉ encoded) :
    ofHeadToken baseRepo (encoded ++ crossMark :: rev) = .ok head ↔
      ∃ bytes repo, Reads encoded bytes ∧ Utf8.decode bytes = .ok repo ∧ Revision.ofTokens repo rev = .ok head := by
  rw [ofHeadToken_append baseRepo h]
  constructor
  · intro hr
    obtain ⟨repo, hrepo, hr⟩ := exists_of_bind_eq_ok hr
    obtain ⟨bytes, hb, hd⟩ := decodeRepo_eq_ok_iff.1 hrepo
    exact ⟨bytes, repo, hb, hd, hr⟩
  · rintro ⟨bytes, repo, hb, hd, hr⟩
    rw [decodeRepo_eq_ok_iff.2 ⟨bytes, hb, hd⟩]
    exact hr

/-! ## Deltas -/

/-- Behind a base that is read, the head decides. -/
theorem ofVars_eq_error_iff {v : Vars} {base : Revision} {e : DecodeError} (h : Revision.ofVars v = .ok base) :
    ofVars v = .error e ↔ ofHeadToken (v.get Var.repo) (v.get Var.deltaHead) = .error e := by
  rw [ofVars, h, ok_bind, bind_eq_error_iff]
  apply or_iff_left
  rintro ⟨head, -, hpure⟩
  cases hpure

/-- Four letters that spell three bytes, and a pad. -/
theorem overpadded_abc : Overpadded "YWJj=" := by
  have hletters : ("YWJj" : Text).all (fun c => (Base64Url.value? c).isSome) = true := by decide
  refine ⟨"YWJj", 1, rfl, fun c hc => ?_, by decide, ⟨1, rfl⟩, .inl rfl⟩
  exact Base64Url.isSome_value?_iff.1 (List.all_eq_true.1 hletters c hc)

/-- The text before the colon of a head that is read is base64url with the pads it needs, or whole groups with pads
that they do not need, and every other text is refused once the base is read. Whole groups with pads give the delta that
they give without. -/
theorem ofVars_head {v : Vars} (hhead : v.get Var.deltaHead = encoded ++ crossMark :: rev)
    (hfirst : crossMark ∉ encoded) :
    (∀ d, ofVars v = .ok d → WellPadded encoded ∨ Overpadded encoded) ∧
    (∀ base, Revision.ofVars v = .ok base →
      ((∃ reason, Misspelt reason ∧ ofVars v = .error (headError (v.get Var.deltaHead) reason)) ↔
        ¬ (WellPadded encoded ∨ Overpadded encoded))) ∧
    (Overpadded encoded → ¬ WellPadded encoded ∧ ∃ row pads, encoded = row ++ List.replicate pads '=' ∧ WellPadded row ∧
      ∀ d, ofVars v = .ok d ↔ ofVars ((Var.deltaHead, row ++ crossMark :: rev) :: v) = .ok d) := by
  refine ⟨fun d hd => ?_, fun base hbase => ?_, fun hover => ?_⟩
  · rw [← Base64Url.exists_reads_iff]
    have hread := (ofVars_eq_ok_iff.1 hd).2
    rw [hhead, ofHeadToken_eq_ok_iff hfirst] at hread
    obtain ⟨bytes, -, hb, -⟩ := hread
    exact ⟨bytes, hb⟩
  · simp only [ofVars_eq_error_iff hbase, hhead]
    rw [ofHeadToken_eq_misspelt_iff _ hfirst, Base64Url.exists_reads_iff]
  · refine ⟨hover.not_wellPadded, ?_⟩
    obtain ⟨row, pads, rfl, hrow, hreads⟩ := hover.exists_reads_iff
    refine ⟨row, pads, rfl, hrow, fun d => ?_⟩
    have hfirst' : crossMark ∉ row := fun hm => hfirst (List.mem_append_left _ hm)
    have hrepo : Var.repo ≠ Var.deltaHead := by decide
    have hrev : Var.rev ≠ Var.deltaHead := by decide
    simp only [ofVars_eq_ok_iff, Vars.get_cons, if_neg hrepo, if_neg hrev, if_true, hhead, ofHeadToken_eq_ok_iff hfirst,
      ofHeadToken_eq_ok_iff hfirst', hreads]

/-- Three letters without their pad are refused, and four letters with one are read as the four. -/
theorem ofVars_head_pads :
    (∃ base, Revision.ofVars [(Var.repo, "r"), (Var.deltaHead, "YWI:x")] = .ok base) ∧
      ¬ (WellPadded "YWI" ∨ Overpadded "YWI") ∧ Overpadded "YWJj=" ∧
      ∃ row pads, ("YWJj=" : Text) = row ++ List.replicate pads '=' ∧ WellPadded row ∧
        ∀ d, ofVars [(Var.repo, "r"), (Var.deltaHead, "YWJj=:x")] = .ok d ↔
          ofVars ((Var.deltaHead, row ++ crossMark :: ("x" : Text)) ::
            [(Var.repo, "r"), (Var.deltaHead, "YWJj=:x")]) = .ok d := by
  have hbase : Revision.ofVars [(Var.repo, "r"), (Var.deltaHead, "YWI:x")] = .ok ⟨⟨"r", 0⟩, [], []⟩ := by decide +kernel
  have hrefused : ofVars [(Var.repo, "r"), (Var.deltaHead, "YWI:x")] =
      .error (headError "YWI:x" (.badBase64 .missingPad)) := by decide +kernel
  refine ⟨⟨_, hbase⟩, ?_, overpadded_abc, ?_⟩
  · apply ((ofVars_head rfl (by decide)).2.1 _ hbase).1
    exact ⟨_, .inr ⟨_, rfl⟩, hrefused⟩
  · exact ((ofVars_head rfl (by decide)).2.2 overpadded_abc).2

/-- What stands before the colon of a head that is read need not be padded as it should. -/
theorem not_forall_wellPadded :
    ¬ ∀ v d (encoded rev : Text), ofVars v = .ok d → v.get Var.deltaHead = encoded ++ crossMark :: rev →
      crossMark ∉ encoded → WellPadded encoded := by
  intro h
  have hread : ofVars [(Var.repo, "r"), (Var.deltaHead, "YWJj=:x")] =
      .ok ⟨⟨⟨"r", 0⟩, [], []⟩, ⟨⟨"abc", 0⟩, "x", []⟩⟩ := by decide +kernel
  exact overpadded_abc.not_wellPadded (h _ _ "YWJj=" "x" hread rfl (by decide))

end Delta

end CodeAddress

/-
Hosts that are read once more, as the text that a URL writes them as. A host that is no address of groups is made of
safe characters (`Host.read_cases`), so what it is read as differs in its capital letters alone, and those it has in
escapes only. A name that the encoder gives has neither, but it may look like a dotted quad and be refused as one.
-/
import CodeAddress.Proofs.Text.Basic
import CodeAddress.Proofs.Text.Numeral
import CodeAddress.Proofs.Text.Percent
import CodeAddress.Url.Host

namespace CodeAddress

/-! ## Lower case -/

namespace Text

variable {c : Char} {s : Text}

theorem isUpper_iff : c.isUpper = true ↔ 65 ≤ c.toNat ∧ c.toNat ≤ 90 := by
  change decide (65 ≤ c.val ∧ c.val ≤ 90) = true ↔ _
  rw [decide_eq_true_eq, UInt32.le_iff_toNat_le, UInt32.le_iff_toNat_le]
  rfl

theorem isLower_iff : c.isLower = true ↔ 97 ≤ c.toNat ∧ c.toNat ≤ 122 := by
  change (decide (97 ≤ c.val) && decide (c.val ≤ 122)) = true ↔ _
  rw [Bool.and_eq_true, decide_eq_true_eq, decide_eq_true_eq, UInt32.le_iff_toNat_le, UInt32.le_iff_toNat_le]
  rfl

theorem not_isUpper_of_isLower (h : c.isLower = true) : ¬ c.isUpper = true := by
  rw [isLower_iff] at h
  rw [isUpper_iff]
  omega

theorem not_isUpper_of_isDigit (h : c.isDigit = true) : ¬ c.isUpper = true := by
  have hbounds := Numeral.bounds_of_isDigit h
  rw [isUpper_iff]
  omega

theorem toLower_of_not_isUpper (h : ¬ c.isUpper = true) : c.toLower = c := dif_neg fun hc => h (decide_eq_true hc)

theorem isLower_toLower (h : c.isUpper = true) : c.toLower.isLower = true := by
  have hval : c.toLower.val = c.val + 32 := congrArg Char.val (dif_pos (of_decide_eq_true h))
  have hnat : c.toLower.toNat = c.toNat + 32 := by
    obtain ⟨-, hz⟩ := isUpper_iff.1 h
    rw [← Char.toNat_val, hval, UInt32.toNat_add, Char.toNat_val]
    change (c.toNat + 32) % 4294967296 = _
    omega
  rw [isUpper_iff] at h
  rw [isLower_iff, hnat]
  omega

theorem lower_of_forall (h : ∀ c ∈ s, ¬ c.isUpper) : lower s = s :=
  (List.map_congr_left fun c hc => toLower_of_not_isUpper (h c hc)).trans (List.map_id s)

theorem lower_lower (s : Text) : lower (lower s) = lower s := by
  refine lower_of_forall fun c hc => ?_
  obtain ⟨d, -, rfl⟩ := List.mem_map.1 hc
  by_cases hd : d.isUpper = true
  · exact not_isUpper_of_isLower (isLower_toLower hd)
  · rwa [toLower_of_not_isUpper hd]

theorem lower_eq_nil_iff : lower s = [] ↔ s = [] := List.map_eq_nil_iff

end Text

namespace Host

variable {idna : Idna} {s host again : Text} {c : Char}

/-! ## Characters of names -/

theorem safe_of_isLower (h : c.isLower = true) : safe c = true := by
  have hletter : c.isAlphanum = true := by
    change (c.isUpper || c.isLower || c.isDigit) = true
    rw [h, Bool.or_true, Bool.true_or]
  simp [safe, Percent.unreserved, hletter]

theorem safe_of_isDigit (h : c.isDigit = true) : safe c = true := by
  have hletter : c.isAlphanum = true := by
    change (c.isAlpha || c.isDigit) = true
    rw [h, Bool.or_true]
  simp [safe, Percent.unreserved, hletter]

theorem safe_toLower (h : safe c = true) : safe c.toLower = true := by
  by_cases hc : c.isUpper = true
  · exact safe_of_isLower (Text.isLower_toLower hc)
  · rwa [Text.toLower_of_not_isUpper hc]

theorem isAscii_of_safe (h : safe c = true) : Text.isAscii c = true := by
  rcases Bool.or_eq_true_iff.1 h with h | h
  · exact (Percent.inert_unreserved c h).1
  · have hall : ("!$&'()*+,;=\"`\x7b\x7d%|\\".toList).all Text.isAscii = true := by decide
    exact List.all_eq_true.1 hall c (List.contains_iff_mem.1 h)

theorem safe_of_mem_quote (hc : c ∈ Percent.quote safe s) : safe c = true := by
  have hdigit : ∀ n < 16, safe (Percent.hexDigit n) = true := by decide
  rcases Percent.mem_quote hc with h | rfl | ⟨n, hn, rfl⟩
  · exact h
  · decide
  · exact hdigit n hn

theorem safe_of_isNameChar (h : Idna.isNameChar c = true) : safe c = true := by
  simp only [Idna.isNameChar, Bool.or_eq_true, beq_iff_eq] at h
  rcases h with ((h | h) | rfl) | rfl
  · exact safe_of_isLower h
  · exact safe_of_isDigit h
  · decide
  · decide

theorem not_isUpper_of_isNameChar (h : Idna.isNameChar c = true) : ¬ c.isUpper = true := by
  simp only [Idna.isNameChar, Bool.or_eq_true, beq_iff_eq] at h
  rcases h with ((h | h) | rfl) | rfl
  · exact Text.not_isUpper_of_isLower h
  · exact Text.not_isUpper_of_isDigit h
  · decide
  · decide

theorem isNameChar_of_looksLikeQuad (h : looksLikeQuad s = true) (hc : c ∈ s) : Idna.isNameChar c = true := by
  rw [← Text.joined_pieces '.' s] at hc
  rcases Text.mem_joined hc with rfl | ⟨run, hrun, hc⟩
  · decide
  · simp only [looksLikeQuad, Bool.and_eq_true, List.all_eq_true, decide_eq_true_eq] at h
    simp [Idna.isNameChar, (h.2 run hrun).2 c hc]

/-! ## Addresses of groups -/

theorem colon_mem_of_isGroups (h : isGroups s = true) : ':' ∈ s := by
  unfold isGroups at h
  split at h
  · next hcut =>
    -- a single row is one group or stands for two
    by_contra hno
    rw [Text.pieces_of_notMem hno, width?] at h
    split at h
    · cases h
    · split at h <;> cases h
  · next before after hcut =>
    rw [Text.eq_append_of_cut? hcut]
    simp

/-- An address in brackets is told by its colons. -/
theorem colon_mem_of_isZonedGroups (h : isZonedGroups s = true) : ':' ∈ s := by
  unfold isZonedGroups at h
  split at h
  · exact colon_mem_of_isGroups h
  · next address zone hcut =>
    simp only [Bool.and_eq_true] at h
    rw [Text.eq_append_of_cut? hcut]
    exact List.mem_append_left _ (colon_mem_of_isGroups h.1.1)

theorem bracketed?_append (inner : Text) : bracketed? ('[' :: inner ++ [']']) = some inner := by
  simp [bracketed?]

theorem bracketed?_of_notMem (h : '[' ∉ s) : bracketed? s = none := by
  unfold bracketed?
  split
  · exact absurd (List.mem_cons_self ..) h
  · rfl

/-! ## Hosts read once more -/

/-- A host whose text is read once more: a name is in lower case then, also in its escapes. -/
def reread (host : Text) : Text := if ':' ∈ host then host else Text.lower host

theorem reread_eq_nil_iff : reread host = [] ↔ host = [] := by
  unfold reread
  split
  · rfl
  · exact Text.lower_eq_nil_iff

/-- A host is an address of groups, or a name or a dotted quad of safe characters, in lower case but for escapes. -/
theorem read_cases (hidna : idna.Lawful) (h : read idna s = .ok host) :
    isZonedGroups host = true ∨
      (∀ c ∈ host, safe c = true) ∧ ('%' ∉ host → Text.lower host = host) := by
  have hname {t : Text} (ht : ∀ c ∈ t, Idna.isNameChar c = true) :
      (∀ c ∈ t, safe c = true) ∧ ('%' ∉ t → Text.lower t = t) :=
    ⟨fun c hc => safe_of_isNameChar (ht c hc),
      fun _ => Text.lower_of_forall fun c hc => not_isUpper_of_isNameChar (ht c hc)⟩
  unfold read at h
  split at h
  · cases h
    exact .inr (hname (by simp))
  split at h
  · next hquad =>
    split at h
    · cases h
      exact .inr (hname fun c hc => isNameChar_of_looksLikeQuad hquad hc)
    · cases h
  split at h
  · split at h
    · next hgroups =>
      cases h
      exact .inl hgroups
    · cases h
  split at h
  · cases h
    refine .inr ⟨fun c => safe_of_mem_quote, fun hno => ?_⟩
    rw [Percent.eq_of_percent_notMem_quote hno, Text.lower_lower]
  · split at h
    · next hencoded =>
      cases h
      exact .inr (hname (hidna.isNameChar hencoded))
    · cases h

theorem read_of_groups (h : isZonedGroups s = true) : read idna ('[' :: s ++ [']']) = .ok s := by
  have hquad : ¬ looksLikeQuad ('[' :: s ++ [']']) = true := fun hquad =>
    absurd (isNameChar_of_looksLikeQuad hquad (List.mem_cons_self ..)) (by decide)
  rw [read, if_neg (by simp), if_neg hquad, bracketed?_append]
  exact if_pos h

/-- Safe characters are read as the same in lower case, if they are read at all. -/
theorem eq_lower_of_read (hsafe : ∀ c ∈ s, safe c = true) (h : read idna s = .ok again) : again = Text.lower s := by
  have hopen : '[' ∉ s := fun hmem => absurd (hsafe _ hmem) (by decide)
  have hascii : s.all Text.isAscii = true := List.all_eq_true.2 fun c hc => isAscii_of_safe (hsafe c hc)
  have hquote : Percent.quote safe (Text.lower s) = Text.lower s := by
    refine Percent.quote_of_forall fun c hc => ?_
    obtain ⟨d, hd, rfl⟩ := List.mem_map.1 hc
    exact safe_toLower (hsafe d hd)
  unfold read at h
  simp only [bracketed?_of_notMem hopen, hascii, if_true] at h
  split at h
  · next hnil =>
    cases h
    rw [hnil]
    rfl
  split at h
  · next hquad =>
    split at h
    · cases h
      exact (Text.lower_of_forall fun c hc => not_isUpper_of_isNameChar (isNameChar_of_looksLikeQuad hquad hc)).symm
    · cases h
  · rw [hquote] at h
    cases h
    rfl

/-- A host that is read from its own text is the host read once more. -/
theorem eq_reread_of_read (hidna : idna.Lawful) (h : read idna s = .ok host)
    (hagain : read idna (text host) = .ok again) : again = reread host := by
  rcases read_cases hidna h with hgroups | ⟨hsafe, -⟩
  · have hcolon := colon_mem_of_isZonedGroups hgroups
    rw [text, if_pos hcolon, read_of_groups hgroups] at hagain
    cases hagain
    exact (if_pos hcolon).symm
  · have hcolon : ':' ∉ host := fun hmem => absurd (hsafe _ hmem) (by decide)
    rw [text, if_neg hcolon] at hagain
    rw [reread, if_neg hcolon]
    exact eq_lower_of_read hsafe hagain

/-- A host without escapes is read as the same. -/
theorem reread_of_read (hidna : idna.Lawful) (h : read idna s = .ok host) (hno : '%' ∉ host) : reread host = host := by
  rcases read_cases hidna h with hgroups | ⟨-, hlower⟩
  · exact if_pos (colon_mem_of_isZonedGroups hgroups)
  · rw [reread, hlower hno, ite_self]

end Host

/-! ## An encoder -/

/-- An encoder that knows one name. -/
def Idna.oneName : Idna where
  encode? name := if name = "bücher.example".toList then some "xn--bcher-kva.example" else none

theorem Idna.oneName_lawful : oneName.Lawful where
  isNameChar {name encoded} h := by
    obtain ⟨-, h⟩ := Option.ite_none_right_eq_some.1 h
    cases h
    have hall : ("xn--bcher-kva.example".toList).all isNameChar = true := by decide
    exact List.all_eq_true.1 hall

end CodeAddress

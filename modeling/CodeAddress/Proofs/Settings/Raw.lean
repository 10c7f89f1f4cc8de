/-
Accepted settings. Raw settings are accepted if each of the three is (`Settings.ofRaw_eq_ok_iff`). Of a base URL only
the first and the last characters are looked at: it has a known scheme, two slashes and a slash at its end, and anything
may stand in between (`Settings.IsHttp`).
-/
import CodeAddress.Proofs.Outcome
import CodeAddress.Proofs.Url.Below
import CodeAddress.Settings.Raw

namespace CodeAddress.Settings

variable {raw : Raw} {s : Settings} {base : Text}

/-- The settings one after the other, each from what is given or its default. -/
theorem ofRaw_eq (raw : Raw) :
    ofRaw raw = do
      let baseUrl ← raw.baseUrl.elim (readBaseUrl ({} : Settings).baseUrl) fun v => textOf v >>= readBaseUrl
      let userAgent ← raw.userAgent.elim (.ok ({} : Settings).userAgent) textOf
      let timeout ← raw.timeout.elim (.ok ({} : Settings).timeout) readTimeout
      return { baseUrl, userAgent, timeout } := by
  obtain ⟨baseUrl, userAgent, timeout⟩ := raw
  cases baseUrl <;> cases userAgent <;> cases timeout <;> simp only [ofRaw, Option.elim, bind_assoc]

theorem ofRaw_eq_ok_iff :
    ofRaw raw = .ok s ↔
      (raw.baseUrl.elim (readBaseUrl ({} : Settings).baseUrl) fun v => textOf v >>= readBaseUrl) = .ok s.baseUrl ∧
      raw.userAgent.elim (.ok ({} : Settings).userAgent) textOf = .ok s.userAgent ∧
      raw.timeout.elim (.ok ({} : Settings).timeout) readTimeout = .ok s.timeout := by
  rw [ofRaw_eq]
  constructor
  · intro h
    obtain ⟨_, hbase, h⟩ := exists_of_bind_eq_ok h
    obtain ⟨_, hagent, h⟩ := exists_of_bind_eq_ok h
    obtain ⟨_, htimeout, h⟩ := exists_of_bind_eq_ok h
    cases h
    exact ⟨hbase, hagent, htimeout⟩
  · rintro ⟨hbase, hagent, htimeout⟩
    rw [hbase, ok_bind, hagent, ok_bind, htimeout, ok_bind]
    rfl

/-! ## Base URLs -/

/-- What is known of a base URL that is accepted: its scheme, and a slash at its end. -/
structure IsHttp (scheme rest base : Text) : Prop where
  known : scheme = "http".toList ∨ scheme = "https".toList
  eq_append : base = scheme ++ ':' :: '/' :: '/' :: rest
  slashed : Text.slashed base = base

theorem exists_of_readBaseUrl {given : Text} (h : readBaseUrl given = .ok base) :
    ∃ scheme rest, IsHttp scheme rest base := by
  unfold readBaseUrl at h
  dsimp only at h
  split at h
  · next hbegins =>
    cases h
    obtain ⟨t, ht, hgiven⟩ := Text.exists_slashed (Text.trimmed given)
    have hslashed : Text.slashed (Text.slashed (Text.trimmed given)) = Text.slashed (Text.trimmed given) :=
      if_pos (Text.endsWith_iff.2 ⟨t, ht⟩)
    have hlonger : ∃ x, Text.slashed (Text.trimmed given) = Text.trimmed given ++ x := by
      rcases hgiven with h | h
      · exact ⟨['/'], by rw [ht, h]⟩
      · exact ⟨[], by rw [ht, h, List.append_nil]⟩
    obtain ⟨x, hx⟩ := hlonger
    rcases hbegins with h | h
    · obtain ⟨rest, hrest⟩ := Text.beginsWith_iff.1 h
      exact ⟨"http".toList, rest ++ x, .inl rfl, by rw [hx, ← hrest]; rfl, hslashed⟩
    · obtain ⟨rest, hrest⟩ := Text.beginsWith_iff.1 h
      exact ⟨"https".toList, rest ++ x, .inr rfl, by rw [hx, ← hrest]; rfl, hslashed⟩
  · cases h

theorem exists_of_ofRaw (h : ofRaw raw = .ok s) : ∃ scheme rest, IsHttp scheme rest s.baseUrl := by
  obtain ⟨hbase, -⟩ := ofRaw_eq_ok_iff.1 h
  cases hgiven : raw.baseUrl with
  | none =>
    rw [hgiven, Option.elim_none] at hbase
    exact exists_of_readBaseUrl hbase
  | some v =>
    rw [hgiven, Option.elim_some] at hbase
    obtain ⟨_, -, hbase⟩ := exists_of_bind_eq_ok hbase
    exact exists_of_readBaseUrl hbase

end CodeAddress.Settings

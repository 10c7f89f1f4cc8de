/-
The timeout of accepted settings. The check refuses what is zero or less, so what is accepted is positive, or it is no
number at all: exactly if it is given as the text `nan`, in any case and behind a sign or not, or as that real
(`Settings.timeout_isPositive_or_nan`). Requests wait that long in each of their steps.
-/
import CodeAddress.Client.Basic
import CodeAddress.Proofs.Real.Reader
import CodeAddress.Proofs.Settings.Layers
import CodeAddress.Proofs.Settings.Raw
import CodeAddress.Proofs.Url.Host

namespace CodeAddress

/-! ## Values that are no number -/

/-- A value that is read as what is no number: its name as a text, or that real. -/
inductive Value.IsNan : Value → Prop
  | text {t : Text} (h : Binary64.NamesNan t) : (Value.text t).IsNan
  | real : (Value.real .nan).IsNan

namespace Value

open Binary64

theorem exists_isDigit_ofNat (n : Nat) : ∃ c ∈ Numeral.ofNat n, c.isDigit = true := by
  obtain ⟨c, hc⟩ := List.exists_mem_of_ne_nil _ (Numeral.ofNat_ne_nil n)
  exact ⟨c, hc, Numeral.isDigit_of_mem_ofNat hc⟩

theorem not_namesNan_ofInt (n : Int) : ¬ NamesNan (Numeral.ofInt n) := by
  cases n with
  | ofNat n =>
    obtain ⟨c, hc, hd⟩ := exists_isDigit_ofNat n
    exact not_namesNan_of_isDigit hc hd
  | negSucc n =>
    obtain ⟨c, hc, hd⟩ := exists_isDigit_ofNat (n + 1)
    exact not_namesNan_of_isDigit (List.mem_cons_of_mem _ hc) hd

theorem not_namesNan_date (d : Date) : ¬ NamesNan d.text := by
  obtain ⟨c, hc, hd⟩ := exists_isDigit_ofNat d.year
  have hmem : c ∈ d.text := by simp [Date.text, Numeral.padded, hc]
  exact not_namesNan_of_isDigit hmem hd

theorem not_namesNan_of_colon {s : Text} (h : ':' ∈ s) : ¬ NamesNan s :=
  not_namesNan h (by decide) (by decide)

/-- Only the name and that real have the name for their text. -/
theorem namesNan_plain_iff {v : Value} : NamesNan v.plain ↔ v.IsNan := by
  constructor
  · intro h
    cases v with
    | none => exact absurd h (not_namesNan (c := 'o') (by decide) (by decide) (by decide))
    | boolean b =>
      have hmem : 'e' ∈ plain (.boolean b) := by cases b <;> decide
      exact absurd h (not_namesNan hmem (by decide) (by decide))
    | integer n => exact absurd h (not_namesNan_ofInt n)
    | real x =>
      rw [namesNan_text_iff.1 h]
      exact .real
    | text t => exact .text h
    | date d => exact absurd h (not_namesNan_date d)
    | clock t => exact absurd h (not_namesNan_of_colon (by simp [plain, Clock.text]))
    | moment m => exact absurd h (not_namesNan_of_colon (by simp [plain, Moment.text, Clock.text]))
    | list items =>
      exact absurd h (not_namesNan (c := '[') (List.mem_cons_self ..) (by decide) (by decide))
    | table fields =>
      exact absurd h (not_namesNan (c := '\x7b') (List.mem_cons_self ..) (by decide) (by decide))
  · rintro (h | _)
    · exact h
    · exact namesNan_text_iff.2 rfl

end Value

namespace Settings

variable {raw : Raw} {s : Settings} {v : Value} {t : Binary64} {root : Text} {file : Option (List UInt8)}
  {env : List (Text × Text)}

/-! ## Checking -/

theorem readTimeout_of_read? (hwrite : v.isWritable = true) (hread : Binary64.read? v.plain = some t) :
    readTimeout v = if t.isAtMostZero then .error (.timeoutNotPositive t) else .ok t := by
  rw [readTimeout, textOf, if_pos hwrite, ok_bind, hread]
  rfl

theorem read?_of_readTimeout (h : readTimeout v = .ok t) :
    Binary64.read? v.plain = some t ∧ t.isAtMostZero = false := by
  obtain ⟨text, htext, h⟩ := exists_of_bind_eq_ok h
  unfold textOf at htext
  split at htext
  · cases htext
    split at h
    · cases h
    · next x hread =>
      split at h
      · cases h
      · next hzero =>
        cases h
        exact ⟨hread, Bool.eq_false_iff.2 hzero⟩
  · cases htext

/-- An accepted timeout is the default, or the number of what is given, which is not refused. -/
theorem timeout_cases (h : ofRaw raw = .ok s) :
    (raw.timeout = none ∧ s.timeout = ({} : Settings).timeout) ∨
    ∃ v, raw.timeout = some v ∧ Binary64.read? v.plain = some s.timeout ∧ s.timeout.isAtMostZero = false := by
  obtain ⟨-, -, htimeout⟩ := ofRaw_eq_ok_iff.1 h
  cases hgiven : raw.timeout with
  | none =>
    rw [hgiven, Option.elim_none] at htimeout
    exact .inl ⟨rfl, (Except.ok.inj htimeout).symm⟩
  | some v =>
    rw [hgiven, Option.elim_some] at htimeout
    exact .inr ⟨v, rfl, read?_of_readTimeout htimeout⟩

theorem timeout_eq_nan_iff (h : ofRaw raw = .ok s) : s.timeout = .nan ↔ ∃ v, raw.timeout = some v ∧ v.IsNan := by
  rcases timeout_cases h with ⟨hnone, hdefault⟩ | ⟨v, hgiven, hread, -⟩
  · rw [hnone, hdefault]
    constructor
    · exact fun hnan => absurd hnan (Binary64.ofDecimal_ne_nan false 30 0)
    · rintro ⟨v, hv, -⟩
      cases hv
  · have hnan : s.timeout = .nan ↔ v.IsNan := by
      rw [← Value.namesNan_plain_iff, ← Binary64.read?_eq_nan_iff, hread, Option.some.injEq]
    rw [hnan, hgiven]
    constructor
    · exact fun hv => ⟨v, rfl, hv⟩
    · rintro ⟨w, hw, hwnan⟩
      cases hw
      exact hwnan

theorem isPositive_of_ne_nan (h : ofRaw raw = .ok s) (hnan : s.timeout ≠ .nan) : s.timeout.isPositive = true := by
  rcases timeout_cases h with ⟨-, hdefault⟩ | ⟨v, -, -, hzero⟩
  · rw [hdefault]
    decide +kernel
  · exact Binary64.isPositive_of_isAtMostZero hnan hzero

/-- An accepted timeout is positive, unless it is given as what is no number. -/
theorem isPositive_or_nan (h : ofRaw raw = .ok s) :
    (s.timeout.isPositive = true ∧ ∀ v, raw.timeout = some v → ¬ v.IsNan) ∨
    (s.timeout = .nan ∧ ∃ v, raw.timeout = some v ∧ v.IsNan) := by
  by_cases hnan : s.timeout = .nan
  · exact .inr ⟨hnan, (timeout_eq_nan_iff h).1 hnan⟩
  · exact .inl ⟨isPositive_of_ne_nan h hnan, fun v hv hvnan => hnan ((timeout_eq_nan_iff h).2 ⟨v, hv, hvnan⟩)⟩

/-- A timeout that is refused makes the settings refused, whatever the others are. -/
theorem exists_error_of_readTimeout {e : SettingsError} (hgiven : raw.timeout = some v) (h : readTimeout v = .error e) :
    (∃ e, ofRaw raw = .error e) ∧ ∀ s, ofRaw { raw with timeout := none } = .ok s → ofRaw raw = .error e := by
  constructor
  · cases hraw : ofRaw raw with
    | error e => exact ⟨e, rfl⟩
    | ok s =>
      obtain ⟨-, -, htimeout⟩ := ofRaw_eq_ok_iff.1 hraw
      rw [hgiven, Option.elim_some, h] at htimeout
      cases htimeout
  · intro s hothers
    obtain ⟨hbase, hagent, -⟩ := ofRaw_eq_ok_iff.1 hothers
    rw [ofRaw_eq, hbase, ok_bind, hagent, ok_bind, hgiven, Option.elim_some, h]
    rfl

/-! ## Requests -/

theorem exists_readProject_of_load (h : (load root file env).settings = .ok s) :
    ∃ document, readProject root file = .ok document ∧ ofRaw (Raw.ofLookup (given document env)) = .ok s := by
  cases hread : readProject root file with
  | ok document =>
    rw [load_eq hread] at h
    exact ⟨document, rfl, h⟩
  | error e =>
    cases file with
    | none => cases hread
    | some bytes =>
      have hsection : readSection root (some bytes) = .error e := by
        rw [readSection, show readDocument (documentPath root) bytes = .error e from hread]
        rfl
      rw [load, hsection] at h
      cases h

theorem timeouts_of_make {method userAgent : Text} {url : Url} {json : Option Json} {r : Request}
    (h : Request.make method url userAgent json t = .ok r) : r.timeouts = .all t := by
  obtain ⟨_, -, h⟩ := exists_of_bind_eq_ok h
  dsimp only at h
  split at h
  · obtain ⟨_, -, h⟩ := exists_of_bind_eq_ok h
    obtain ⟨_, -, h⟩ := exists_of_bind_eq_ok h
    cases h
    rfl
  · split at h
    · cases h
    · obtain ⟨_, -, h⟩ := exists_of_bind_eq_ok h
      obtain ⟨_, -, h⟩ := exists_of_bind_eq_ok h
      cases h
      rfl

theorem timeouts_of_request {idna : Idna} {c : Client} {route : Route} {a : Option Address} {ps : Params}
    {json : Option Json} {r : Request} (h : c.request idna route a ps json = .ok r) :
    r.timeouts = .all c.settings.timeout := by
  obtain ⟨endpoint, -, h⟩ := exists_of_bind_eq_ok h
  obtain ⟨url, -, h⟩ := exists_of_bind_eq_ok h
  exact timeouts_of_make (mapError_eq_ok_iff.1 h)

/-! ## Main result -/

/-- The timeout of accepted settings is positive, or it is no number and given as that. Given as any other number that
is not positive it is refused, and the settings with it. A request under loaded settings has their timeout. -/
theorem timeout_isPositive_or_nan (raw : Raw) (root : Text) (file : Option (List UInt8)) (env : List (Text × Text)) :
    (∀ s, ofRaw raw = .ok s →
      (s.timeout.isPositive = true ∧ ∀ v, raw.timeout = some v → ¬ v.IsNan) ∨
      (s.timeout = .nan ∧ ∃ v, raw.timeout = some v ∧ v.IsNan)) ∧
    (∀ v t, raw.timeout = some v → v.isWritable = true → Binary64.read? v.plain = some t →
      t.isPositive = false → t ≠ .nan →
        (∃ e, ofRaw raw = .error e) ∧
        ∀ s, ofRaw { raw with timeout := none } = .ok s → ofRaw raw = .error (.timeoutNotPositive t)) ∧
    ∀ (idna : Idna) (c : Client) route a ps json r,
      (load root file env).settings = .ok c.settings → c.request idna route a ps json = .ok r →
        r.timeouts = .all c.settings.timeout ∧
        ∃ document, readProject root file = .ok document ∧
          ((c.settings.timeout.isPositive = true ∧ ∀ v, given document env .timeout = some v → ¬ v.IsNan) ∨
          (c.settings.timeout = .nan ∧ ∃ v, given document env .timeout = some v ∧ v.IsNan)) := by
  refine ⟨fun s => isPositive_or_nan, fun v t hgiven hwrite hread hpos hnan => ?_, ?_⟩
  · have hzero : t.isAtMostZero = true := Binary64.isAtMostZero_of_isPositive hnan hpos
    refine exists_error_of_readTimeout hgiven ?_
    rw [readTimeout_of_read? hwrite hread, if_pos hzero]
  · intro idna c route a ps json r hload hrequest
    obtain ⟨document, hread, hraw⟩ := exists_readProject_of_load hload
    exact ⟨timeouts_of_request hrequest, document, hread, isPositive_or_nan hraw⟩

/-- A positive timeout, one that is rounded to zero, and a request under the settings of a project that says nothing. -/
theorem timeout_isPositive_or_nan_seconds :
    ((∃ s, ofRaw { timeout := some (.integer 5) } = .ok s) ∧
      ∀ s, ofRaw { timeout := some (.integer 5) } = .ok s → s.timeout.isPositive = true) ∧
    ofRaw { timeout := some (.text "1e-999") } = .error (.timeoutNotPositive (.zero false)) ∧
    ∃ r, ({ router := ⟨[⟨.repos, "GET", "repos", [.literal "repos"]⟩]⟩ } : Client).request
        .oneName .repos none [] none = .ok r ∧
      r.timeouts = .all ({} : Settings).timeout := by
  have haccepted : ofRaw { timeout := some (.integer 5) } = .ok { timeout := Binary64.ofDecimal false 5 0 } := by
    decide +kernel
  have hothers : ofRaw {} = .ok {} := by decide +kernel
  have hread : Binary64.read? (Value.text "1e-999").plain = some (.zero false) := by decide +kernel
  have hload : (load "/p" none []).settings = .ok {} := by decide +kernel
  have hrequest : (({ router := ⟨[⟨.repos, "GET", "repos", [.literal "repos"]⟩]⟩ } : Client).request
      .oneName .repos none [] none).isOk = true := by decide +kernel
  refine ⟨⟨⟨_, haccepted⟩, fun s h => ?_⟩, ?_, ?_⟩
  · rcases (timeout_isPositive_or_nan _ [] none []).1 s h with ⟨hpos, -⟩ | ⟨-, v, hv, hvnan⟩
    · exact hpos
    · cases hv
      cases hvnan
  · exact ((timeout_isPositive_or_nan _ [] none []).2.1 _ _ rfl rfl hread rfl (by decide)).2 _ hothers
  · obtain ⟨r, hr⟩ := exists_of_isOk hrequest
    exact ⟨r, hr, ((timeout_isPositive_or_nan {} "/p" none []).2.2 _ _ _ _ _ _ r hload hr).1⟩

/-- What is no number is neither positive nor refused. -/
theorem not_forall_isPositive : ¬ ∀ raw s, ofRaw raw = .ok s → s.timeout.isPositive = true := by
  intro h
  have hnan : ofRaw { timeout := some (.text "nan") } = .ok { timeout := .nan } := by decide +kernel
  have := h _ _ hnan
  cases this

end Settings

end CodeAddress

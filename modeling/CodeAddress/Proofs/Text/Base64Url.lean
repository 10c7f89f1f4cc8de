/-
Reading back what `Base64Url.encode` writes: the letters are followed by as many pads as the last group
needs, every letter has its value, and the values give the bytes (`reads_encode`). The alphabet lacks the
colon, so what is written can stand before one (`colon_notMem_encode`).

The reader takes letters with the pads that their last group needs (`WellPadded`), and besides them letters that need
none with one or two pads after all (`Overpadded`), which it reads as if they were not there (`exists_reads_iff`).
-/
import CodeAddress.Text.Base64Url

namespace CodeAddress.Base64Url

/-! ## Letters -/

theorem value?_letter : ∀ n < 64, value? (letter n) = some n := by decide

theorem letter_ne_colon : ∀ n < 64, letter n ≠ ':' := by decide

/-- The values of the letters that bytes are written with. -/
def sextets : List UInt8 → List Nat
  | [] => []
  | [a] => [a.toNat / 4, a.toNat % 4 * 16]
  | [a, b] => [a.toNat / 4, a.toNat % 4 * 16 + b.toNat / 16, b.toNat % 16 * 4]
  | a :: b :: c :: r =>
    a.toNat / 4 :: (a.toNat % 4 * 16 + b.toNat / 16) :: (b.toNat % 16 * 4 + c.toNat / 64) :: c.toNat % 64
      :: sextets r

/-- The number of pads behind a number of bytes. -/
def pads (n : Nat) : Nat := (3 - n % 3) % 3

theorem lt_of_mem_sextets {bs : List UInt8} {n : Nat} (h : n ∈ sextets bs) : n < 64 := by
  fun_induction sextets bs with
  | case1 => simp at h
  | case2 a =>
    have ha := a.toNat_lt
    simp only [List.mem_cons, List.not_mem_nil, or_false] at h
    omega
  | case3 a b =>
    have ha := a.toNat_lt
    have hb := b.toNat_lt
    simp only [List.mem_cons, List.not_mem_nil, or_false] at h
    omega
  | case4 a b c r ih =>
    have ha := a.toNat_lt
    have hb := b.toNat_lt
    have hc := c.toNat_lt
    simp only [List.mem_cons] at h
    rcases h with h | h | h | h | h
    · omega
    · omega
    · omega
    · omega
    · exact ih h

/-- What is written are the letters of the values and then the pads. -/
theorem encode_eq (bs : List UInt8) :
    encode bs = (sextets bs).map letter ++ List.replicate (pads bs.length) '=' := by
  fun_induction encode bs with
  | case1 => rfl
  | case2 => rfl
  | case3 => rfl
  | case4 a b c r ih =>
    have hp : pads (a :: b :: c :: r).length = pads r.length := by
      simp only [List.length_cons, pads]
      omega
    rw [ih, hp]
    rfl

theorem colon_notMem_encode (bs : List UInt8) : ':' ∉ encode bs := by
  rw [encode_eq, List.mem_append, not_or]
  constructor
  · rw [List.mem_map]
    rintro ⟨n, hn, h⟩
    exact letter_ne_colon n (lt_of_mem_sextets hn) h
  · simp [List.mem_replicate]

/-! ## Reading -/

/-- The letters and digits of ASCII, the hyphen and the low line. -/
def IsLetter (c : Char) : Prop :=
  ('A' ≤ c ∧ c ≤ 'Z') ∨ ('a' ≤ c ∧ c ≤ 'z') ∨ ('0' ≤ c ∧ c ≤ '9') ∨ c = '-' ∨ c = '_'

theorem isSome_value?_iff {c : Char} : (value? c).isSome = true ↔ IsLetter c := by
  unfold value? IsLetter
  split
  · next h => exact iff_of_true rfl (.inl h)
  split
  · next h => exact iff_of_true rfl (.inr (.inl h))
  split
  · next h => exact iff_of_true rfl (.inr (.inr (.inl h)))
  split
  · next h => exact iff_of_true rfl (.inr (.inr (.inr (.inl h))))
  split
  · next h => exact iff_of_true rfl (.inr (.inr (.inr (.inr h))))
  · simp [*]

theorem isLetter_letter : ∀ n < 64, IsLetter (letter n) := by
  intro n hn
  rw [← isSome_value?_iff, value?_letter n hn]
  rfl

/-- A row of letters is read up to the first character that is none. -/
theorem letters_append {row rest : Text} (h : ∀ c ∈ row, IsLetter c) (hr : ∀ c ∈ rest.head?, value? c = none) :
    letters (row ++ rest) = (row.filterMap value?, rest) := by
  induction row with
  | nil =>
    cases rest with
    | nil => rfl
    | cons c rest =>
      rw [List.nil_append, letters, hr c rfl]
      rfl
  | cons c row ih =>
    obtain ⟨hc, hrow⟩ := List.forall_mem_cons.1 h
    obtain ⟨n, hn⟩ := Option.isSome_iff_exists.1 (isSome_value?_iff.2 hc)
    rw [List.cons_append, letters, hn, ih hrow, List.filterMap_cons_some hn]

/-- What is read as letters is a row of them. -/
theorem exists_row_of_letters {s rest : Text} {values : List Nat} (h : letters s = (values, rest)) :
    ∃ row, s = row ++ rest ∧ ∀ c ∈ row, IsLetter c := by
  induction s generalizing values with
  | nil =>
    cases h
    exact ⟨[], rfl, by simp⟩
  | cons c s ih =>
    unfold letters at h
    split at h
    · next n hn =>
      cases h
      obtain ⟨row, hs, hrow⟩ := ih rfl
      refine ⟨c :: row, congrArg (c :: ·) hs, List.forall_mem_cons.2 ⟨?_, hrow⟩⟩
      rw [← isSome_value?_iff, hn]
      rfl
    · cases h
      exact ⟨[], rfl, by simp⟩

/-- The spelling of a row of letters and pads. -/
theorem spelling?_append {row : Text} {pads : Nat} (h : ∀ c ∈ row, IsLetter c) (hp : pads ≤ 2) :
    spelling? (row ++ List.replicate pads '=') = some ⟨row.filterMap value?, pads⟩ := by
  have hpad : ∀ c ∈ (List.replicate pads '=').head?, value? c = none := by
    intro c hc
    rw [List.eq_of_mem_replicate (List.mem_of_mem_head? hc)]
    rfl
  have hcases : pads = 0 ∨ pads = 1 ∨ pads = 2 := by omega
  rw [spelling?, letters_append h hpad]
  rcases hcases with rfl | rfl | rfl <;> rfl

/-- The letters of a spelled text stop at its pads, which are two at most. -/
theorem letters_of_spelling? {s : Text} {spelling : Spelling} (h : spelling? s = some spelling) :
    letters s = (spelling.values, List.replicate spelling.pads '=') ∧ spelling.pads ≤ 2 := by
  unfold spelling? at h
  split at h
  · next hl =>
    cases h
    exact ⟨hl, Nat.zero_le 2⟩
  · next hl =>
    cases h
    exact ⟨hl, Nat.le_succ 1⟩
  · next hl =>
    cases h
    exact ⟨hl, Nat.le_refl 2⟩
  · cases h

/-- Every letter has a value. -/
theorem length_values {row : Text} (h : ∀ c ∈ row, IsLetter c) : (row.filterMap value?).length = row.length := by
  rw [List.filterMap_length_eq_length]
  exact fun c hc => isSome_value?_iff.2 (h c hc)

theorem filterMap_map_letter {values : List Nat} (h : ∀ n ∈ values, n < 64) :
    (values.map letter).filterMap value? = values := by
  induction values with
  | nil => rfl
  | cons n values ih =>
    obtain ⟨hn, hvalues⟩ := List.forall_mem_cons.1 h
    rw [List.map_cons, List.filterMap_cons_some (value?_letter n hn), ih hvalues]

/-! ## Bytes -/

/-- The text is read as the bytes. -/
def Reads (s : Text) (bs : List UInt8) : Prop := ∃ spelling, spelling? s = some spelling ∧ spelling.decode = .ok bs

/-- When a spelling is read: the pads are those that are needed, or none is needed. -/
theorem decode_eq_ok_iff {spelling : Spelling} {bs : List UInt8} (h : spelling.pads ≤ 2) :
    spelling.decode = .ok bs ↔ bs = bytes spelling.values ∧
      (4 ∣ spelling.values.length + spelling.pads ∨ spelling.values ≠ [] ∧ 4 ∣ spelling.values.length) := by
  obtain ⟨values, pads⟩ := spelling
  have hempty : values = [] ↔ values.length = 0 := List.length_eq_zero_iff.symm
  simp only [Spelling.decode, ne_eq, hempty] at h ⊢
  split
  · exact iff_of_false nofun fun h => by omega
  split
  · exact iff_of_false nofun fun h => by omega
  split
  · exact iff_of_false nofun fun h => by omega
  split
  · exact iff_of_false nofun fun h => by omega
  · rw [Except.ok.injEq, eq_comm, iff_self_and]
    intro _
    omega

/-- When a row of letters with pads behind it is read. -/
theorem reads_append_iff {row : Text} {pads : Nat} {bs : List UInt8} (h : ∀ c ∈ row, IsLetter c) (hp : pads ≤ 2) :
    Reads (row ++ List.replicate pads '=') bs ↔ bs = bytes (row.filterMap value?) ∧
      (4 ∣ row.length + pads ∨ row ≠ [] ∧ 4 ∣ row.length) := by
  have hreads : Reads (row ++ List.replicate pads '=') bs ↔
      (Spelling.mk (row.filterMap value?) pads).decode = .ok bs := by
    simp only [Reads, spelling?_append h hp, Option.some.injEq, exists_eq_left']
  rw [hreads, decode_eq_ok_iff hp, length_values h, ne_eq, ← List.length_eq_zero_iff, length_values h,
    List.length_eq_zero_iff]

/-- The pads make up the last group. -/
theorem four_dvd_length_sextets (bs : List UInt8) : 4 ∣ (sextets bs).length + pads bs.length := by
  fun_induction sextets bs with
  | case1 => exact ⟨0, rfl⟩
  | case2 => exact ⟨1, rfl⟩
  | case3 => exact ⟨1, rfl⟩
  | case4 a b c r ih =>
    simp only [List.length_cons, pads] at ih ⊢
    omega

/-- The values give back the bytes. -/
theorem bytes_sextets (bs : List UInt8) : bytes (sextets bs) = bs := by
  fun_induction sextets bs with
  | case1 => rfl
  | case2 a =>
    have ha := a.toNat_lt
    simp only [bytes, List.cons.injEq, and_true, ← UInt8.toNat_inj, UInt8.toNat_ofNat']
    omega
  | case3 a b =>
    have ha := a.toNat_lt
    have hb := b.toNat_lt
    simp only [bytes, List.cons.injEq, and_true, ← UInt8.toNat_inj, UInt8.toNat_ofNat']
    omega
  | case4 a b c r ih =>
    have ha := a.toNat_lt
    have hb := b.toNat_lt
    have hc := c.toNat_lt
    simp only [bytes, ih, List.cons.injEq, and_true, ← UInt8.toNat_inj, UInt8.toNat_ofNat']
    omega

/-- The bytes of what is written are read back, for every number of them. -/
theorem reads_encode (bs : List UInt8) : Reads (encode bs) bs := by
  have hrow : ∀ c ∈ (sextets bs).map letter, IsLetter c := by
    intro c hc
    obtain ⟨n, hn, rfl⟩ := List.mem_map.1 hc
    exact isLetter_letter n (lt_of_mem_sextets hn)
  have hvalues : ((sextets bs).map letter).filterMap value? = sextets bs :=
    filterMap_map_letter fun n hn => lt_of_mem_sextets hn
  have hp : pads bs.length ≤ 2 := by
    rw [pads]
    omega
  have hlen : 4 ∣ ((sextets bs).map letter).length + pads bs.length := by
    rw [List.length_map]
    exact four_dvd_length_sextets bs
  rw [encode_eq, reads_append_iff hrow hp, hvalues]
  exact ⟨(bytes_sextets bs).symm, .inl hlen⟩

/-! ## Texts that are read -/

/-- Letters and the pads that make them up to a multiple of four. -/
def WellPadded (s : Text) : Prop :=
  ∃ row pads, s = row ++ List.replicate pads '=' ∧ (∀ c ∈ row, IsLetter c) ∧ pads ≤ 2 ∧ 4 ∣ row.length + pads

/-- Letters that are a multiple of four themselves, and one or two pads. -/
def Overpadded (s : Text) : Prop :=
  ∃ row pads, s = row ++ List.replicate pads '=' ∧ (∀ c ∈ row, IsLetter c) ∧ row ≠ [] ∧ 4 ∣ row.length ∧
    (pads = 1 ∨ pads = 2)

theorem WellPadded.four_dvd_length {s : Text} (h : WellPadded s) : 4 ∣ s.length := by
  obtain ⟨row, pads, rfl, -, -, hlen⟩ := h
  rwa [List.length_append, List.length_replicate]

theorem Overpadded.not_wellPadded {s : Text} (h : Overpadded s) : ¬ WellPadded s := by
  intro hwell
  have hfour := hwell.four_dvd_length
  obtain ⟨row, pads, rfl, -, -, hlen, hpads⟩ := h
  rw [List.length_append, List.length_replicate] at hfour
  omega

/-- What is read is letters with the pads they need, or with pads where they need none. -/
theorem exists_reads_iff {s : Text} : (∃ bs, Reads s bs) ↔ WellPadded s ∨ Overpadded s := by
  constructor
  · rintro ⟨bs, hreads⟩
    obtain ⟨spelling, hs, -⟩ := id hreads
    obtain ⟨hletters, hp⟩ := letters_of_spelling? hs
    obtain ⟨row, rfl, hrow⟩ := exists_row_of_letters hletters
    rcases ((reads_append_iff hrow hp).1 hreads).2 with hlen | ⟨hne, hlen⟩
    · exact .inl ⟨row, _, rfl, hrow, hp, hlen⟩
    by_cases hzero : spelling.pads = 0
    · exact .inl ⟨row, _, rfl, hrow, hp, by rwa [hzero]⟩
    · exact .inr ⟨row, _, rfl, hrow, hne, hlen, by omega⟩
  · rintro (⟨row, pads, rfl, hrow, hp, hlen⟩ | ⟨row, pads, rfl, hrow, hne, hlen, hpads⟩)
    · exact ⟨_, (reads_append_iff hrow hp).2 ⟨rfl, .inl hlen⟩⟩
    · exact ⟨_, (reads_append_iff hrow (by omega)).2 ⟨rfl, .inr ⟨hne, hlen⟩⟩⟩

/-- Pads that are not needed are read as if they were not there. -/
theorem Overpadded.exists_reads_iff {s : Text} (h : Overpadded s) :
    ∃ row pads, s = row ++ List.replicate pads '=' ∧ WellPadded row ∧ ∀ bs, Reads s bs ↔ Reads row bs := by
  obtain ⟨row, pads, rfl, hrow, hne, hlen, hpads⟩ := h
  have hnone : row ++ List.replicate 0 '=' = row := List.append_nil row
  refine ⟨row, pads, rfl, ⟨row, 0, hnone.symm, hrow, Nat.zero_le 2, hlen⟩, fun bs => ?_⟩
  have hbare : Reads row bs ↔ bs = bytes (row.filterMap value?) ∧ (4 ∣ row.length + 0 ∨ row ≠ [] ∧ 4 ∣ row.length) := by
    rw [← reads_append_iff hrow (Nat.zero_le 2), hnone]
  rw [hbare, reads_append_iff hrow (by omega)]
  simp only [hne, hlen, ne_eq, not_false_eq_true, and_self, or_true]

end CodeAddress.Base64Url

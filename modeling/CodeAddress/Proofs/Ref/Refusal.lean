/-
How the readers of references answer texts of any kind (`Address.Kind.read_answers`): with a reference, or with an
error of one of the classes the reader has, under the name of one of the variables it reads. The one way out of this is
a repository token that is the mark of numbers and more digits than an integer is read from, in the variable itself or
spelled by the head of a delta; it is met exactly if the variables are `Overlong`.

A reader in two steps answers as its steps do (`Answers.bind`), so each reader's lemma follows its definition, and the
base64url and UTF-8 faults of a head, whatever they are, turn up as one class.
-/
import CodeAddress.Proofs.Outcome
import CodeAddress.Proofs.Ref.Repo
import CodeAddress.Ref.Address

namespace CodeAddress

/-! ## Answers -/

/-- A class of errors, and the variable it is about. -/
abbrev Refusal := DecodeError.Kind × Text

variable {α β : Type} {x : Except DecodeError α} {allowed : List Refusal} {overlong : Prop}

/-- An answer of a reader: a value or an allowed refusal, but where a number is too long. -/
structure Answers (x : Except DecodeError α) (allowed : List Refusal) (overlong : Prop) : Prop where
  tooLong : overlong → ∃ n, Numeral.digitLimit < n ∧ x = .error (.numeralTooLong n)
  typed : ¬ overlong → (∃ a, x = .ok a) ∨ ∃ kind field value reason, (kind, field) ∈ allowed ∧
    x = .error (.invalid kind field value reason)

namespace Answers

theorem value (a : α) : Answers (.ok a) allowed False :=
  ⟨False.elim, fun _ => .inl ⟨a, rfl⟩⟩

theorem refusal {kind : DecodeError.Kind} {field : Text} (h : (kind, field) ∈ allowed) (value : Text)
    (reason : DecodeError.Reason) :
    Answers (.error (.invalid kind field value reason) : Except DecodeError α) allowed False :=
  ⟨False.elim, fun _ => .inr ⟨kind, field, value, reason, h, rfl⟩⟩

theorem congr {p : Prop} (h : Answers x allowed overlong) (hp : p ↔ overlong) : Answers x allowed p :=
  ⟨fun h' => h.tooLong (hp.1 h'), fun h' => h.typed (mt hp.2 h')⟩

theorem mono {more : List Refusal} (h : Answers x allowed overlong) (hm : allowed ⊆ more) :
    Answers x more overlong := by
  refine ⟨h.tooLong, fun ho => ?_⟩
  rcases h.typed ho with ha | ⟨kind, field, value, reason, hmem, he⟩
  · exact .inl ha
  · exact .inr ⟨kind, field, value, reason, hm hmem, he⟩

/-- In two steps a number is too long for the first, or for the second on the value of the first. -/
theorem bind {f : α → Except DecodeError β} {p : α → Prop} (hx : Answers x allowed overlong)
    (hf : ∀ a, x = .ok a → Answers (f a) allowed (p a)) :
    Answers (x >>= f) allowed (overlong ∨ ∃ a, x = .ok a ∧ p a) := by
  constructor
  · rintro (ho | ⟨a, rfl, hp⟩)
    · obtain ⟨n, hn, rfl⟩ := hx.tooLong ho
      exact ⟨n, hn, rfl⟩
    · exact (hf a rfl).tooLong hp
  · intro hno
    rw [not_or] at hno
    rcases hx.typed hno.1 with ⟨a, rfl⟩ | ⟨kind, field, value, reason, hmem, rfl⟩
    · exact (hf a rfl).typed fun hp => hno.2 ⟨a, rfl, hp⟩
    · exact .inr ⟨kind, field, value, reason, hmem, rfl⟩

/-- A second step in which no number is too long changes nothing. -/
theorem bind_of_forall {f : α → Except DecodeError β} (hx : Answers x allowed overlong)
    (hf : ∀ a, Answers (f a) allowed False) : Answers (x >>= f) allowed overlong :=
  (hx.bind fun a _ => hf a).congr (by simp)

theorem map (h : Answers x allowed overlong) (f : α → β) : Answers (x.map f) allowed overlong :=
  h.bind_of_forall fun a => value (f a)

end Answers

/-! ## Repositories -/

namespace Repo

def refusals : List Refusal := [(.emptyPart, Var.repo), (.repoId, Var.repo)]

/-- The mark of numbers and more digits than an integer is read from. -/
def IsOverlong (token : Text) : Prop :=
  ∃ digits, token = idMark ++ digits ∧ (∀ c ∈ digits, c.isDigit = true) ∧ Numeral.digitLimit < digits.length

/-- Zero in one digit more than are read. -/
def longZero : Text := idMark ++ List.replicate (Numeral.digitLimit + 1) '0'

theorem isOverlong_longZero : IsOverlong longZero := by
  refine ⟨_, rfl, fun c hc => ?_, ?_⟩
  · rw [List.eq_of_mem_replicate hc]
    rfl
  · rw [List.length_replicate]
    exact Nat.lt_succ_self _

theorem answers_ofDigits (token digits : Text) :
    Answers (ofDigits token digits) refusals
      ((∀ c ∈ digits, c.isDigit = true) ∧ Numeral.digitLimit < digits.length) := by
  unfold ofDigits
  split
  · next hd =>
    refine (Answers.refusal (by decide) _ _).congr (iff_false_intro ?_)
    rintro ⟨hall, hlong⟩
    rcases hd with rfl | hd
    · exact absurd hlong (by simp)
    · exact hd (List.all_eq_true.2 hall)
  next hd =>
  simp only [not_or, not_not, List.all_eq_true] at hd
  split
  · next hlong => exact ⟨fun _ => ⟨_, hlong, rfl⟩, fun hno => absurd ⟨hd.2, hlong⟩ hno⟩
  next hshort =>
  have hno : (∀ c ∈ digits, c.isDigit = true) ∧ Numeral.digitLimit < digits.length ↔ False :=
    iff_false_intro fun h => hshort h.2
  split
  · exact (Answers.refusal (by decide) _ _).congr hno
  · exact (Answers.value _).congr hno

theorem answers_ofToken (t : Text) : Answers (ofToken t) refusals (IsOverlong t) := by
  by_cases hid : idMark <+: t
  · obtain ⟨digits, rfl⟩ := hid
    rw [ofToken_idMark]
    refine (answers_ofDigits _ digits).congr ?_
    constructor
    · rintro ⟨digits', heq, h⟩
      rwa [List.append_cancel_left heq]
    · exact fun h => ⟨digits, rfl, h⟩
  · have hno : IsOverlong t ↔ False := iff_false_intro fun ⟨digits, heq, _⟩ => hid ⟨digits, heq.symm⟩
    by_cases hne : t = []
    · rw [ofToken, if_pos hne]
      exact (Answers.refusal (by decide) _ _).congr hno
    · rw [ofToken, if_neg hne, Text.after?_eq_none_iff.2 hid]
      exact (Answers.value _).congr hno

end Repo

/-! ## Revisions -/

namespace Revision

def refusals : List Refusal := Repo.refusals ++ [(.revision, Var.rev)]

theorem answers_ofTokens (repo rev : Text) : Answers (ofTokens repo rev) refusals (Repo.IsOverlong repo) := by
  have hrepo : Answers (Repo.ofToken repo) refusals (Repo.IsOverlong repo) :=
    (Repo.answers_ofToken repo).mono (List.subset_append_left ..)
  refine hrepo.bind_of_forall fun x => ?_
  dsimp only
  split
  · exact Answers.refusal (by decide) _ _
  · exact Answers.value _

end Revision

/-! ## Deltas -/

namespace Delta

def refusals : List Refusal := Revision.refusals ++ [(.deltaHead, Var.deltaHead)]

/-- A head token that spells the token of a repository whose number is too long. -/
def HeadIsOverlong (headToken : Text) : Prop :=
  ∃ encoded rev repo, Text.cut? [crossMark] headToken = some (encoded, rev) ∧
    decodeRepo headToken encoded = .ok repo ∧ Repo.IsOverlong repo

theorem answers_decodeRepo (headToken encoded : Text) : Answers (decodeRepo headToken encoded) refusals False := by
  unfold decodeRepo
  dsimp only
  split
  · exact Answers.refusal (by decide) _ _
  split
  · exact Answers.refusal (by decide) _ _
  split
  · exact Answers.refusal (by decide) _ _
  · exact Answers.value _

theorem answers_ofTokens (repo rev : Text) :
    Answers (Revision.ofTokens repo rev) refusals (Repo.IsOverlong repo) :=
  (Revision.answers_ofTokens repo rev).mono (List.subset_append_left ..)

/-- Where the base's token is not too long, a head token is so only for the repository it spells. -/
theorem answers_ofHeadToken {baseRepo : Text} (hbase : ¬ Repo.IsOverlong baseRepo) (headToken : Text) :
    Answers (ofHeadToken baseRepo headToken) refusals (HeadIsOverlong headToken) := by
  unfold ofHeadToken
  split
  · next encoded rev hcut =>
    refine ((answers_decodeRepo headToken encoded).bind fun repo _ => answers_ofTokens repo rev).congr ?_
    rw [false_or]
    constructor
    · rintro ⟨_, _, repo, hcut', h⟩
      rw [hcut] at hcut'
      cases hcut'
      exact ⟨repo, h⟩
    · rintro ⟨repo, h⟩
      exact ⟨encoded, rev, repo, hcut, h⟩
  · next hcut =>
    refine (answers_ofTokens baseRepo headToken).congr (iff_of_false ?_ hbase)
    rintro ⟨_, _, _, hcut', -⟩
    rw [hcut] at hcut'
    cases hcut'

/-- The variables of a delta whose base or, behind a base that is read, whose head has a number that is too long. -/
def IsOverlong (v : Vars) : Prop :=
  Repo.IsOverlong (v.get Var.repo) ∨ (∃ base, Revision.ofVars v = .ok base) ∧ HeadIsOverlong (v.get Var.deltaHead)

theorem answers_ofVars (v : Vars) : Answers (ofVars v) refusals (IsOverlong v) := by
  have hbase : Answers (Revision.ofVars v) refusals (Repo.IsOverlong (v.get Var.repo)) := answers_ofTokens _ _
  refine (hbase.bind (p := fun _ => HeadIsOverlong (v.get Var.deltaHead)) fun base hread => ?_).congr ?_
  · have hshort : ¬ Repo.IsOverlong (v.get Var.repo) := fun ho => by
      obtain ⟨n, -, he⟩ := hbase.tooLong ho
      rw [hread] at he
      cases he
    exact (answers_ofHeadToken hshort _).bind_of_forall fun head => Answers.value _
  · rw [IsOverlong, exists_and_right]

end Delta

/-! ## Definitions -/

namespace Definition

def refusals : List Refusal := [Var.repo, Var.unitType, Var.unit].map fun name => (.emptyPart, name)

theorem answers_ofVars (v : Vars) : Answers (ofVars v) refusals False := by
  unfold ofVars
  split
  · exact Answers.refusal (by decide) _ _
  split
  · exact Answers.refusal (by decide) _ _
  split
  · exact Answers.refusal (by decide) _ _
  · exact Answers.value _

end Definition

/-! ## Main statement -/

namespace Address.Kind

def refusals : Kind → List Refusal
  | repo => Repo.refusals
  | revision => Revision.refusals
  | delta => Delta.refusals
  | definition => Definition.refusals

/-- The variables in which a reader meets a number that is too long. -/
def Overlong : Kind → Vars → Prop
  | repo, v | revision, v => Repo.IsOverlong (v.get Var.repo)
  | delta, v => Delta.IsOverlong v
  | definition, _ => False

/-- From any variables a reader gives a reference or one of its refusals, and not exactly if it meets a number of more
digits than are read. -/
theorem read_answers (k : Kind) (v : Vars) :
    (k.Overlong v → ∃ n, Numeral.digitLimit < n ∧ k.read v = .error (.numeralTooLong n)) ∧
      (¬ k.Overlong v → (∃ a, k.read v = .ok a) ∨ ∃ kind field value reason, (kind, field) ∈ k.refusals ∧
        k.read v = .error (.invalid kind field value reason)) := by
  have h : Answers (k.read v) k.refusals (k.Overlong v) := by
    cases k with
    | repo => exact (Repo.answers_ofToken _).map _
    | revision => exact (Revision.answers_ofTokens _ _).map _
    | delta => exact (Delta.answers_ofVars v).map _
    | definition => exact (Definition.answers_ofVars v).map _
  exact ⟨h.tooLong, h.typed⟩

/-- Zero in too many digits, and variables without a repository. -/
theorem read_answers_longZero :
    (∃ n, Numeral.digitLimit < n ∧ repo.read [(Var.repo, Repo.longZero)] = .error (.numeralTooLong n)) ∧
      ((∃ a, definition.read [] = .ok a) ∨ ∃ kind field value reason, (kind, field) ∈ definition.refusals ∧
        definition.read [] = .error (.invalid kind field value reason)) := by
  constructor
  · refine (read_answers repo _).1 ?_
    rw [Overlong, Vars.get_cons, if_pos rfl]
    exact Repo.isOverlong_longZero
  · exact (read_answers definition []).2 id

/-- Not every text is read or refused. -/
theorem not_forall_read_typed :
    ¬ ∀ (k : Kind) (v : Vars), (∃ a, k.read v = .ok a) ∨ ∃ kind field value reason,
      k.read v = .error (.invalid kind field value reason) := by
  intro h
  have hread : repo.read [(Var.repo, Repo.longZero)] = (Repo.ofToken Repo.longZero).map .repo := by
    rw [read, Repo.ofVars, Vars.get_cons, if_pos rfl]
  obtain ⟨n, -, hlong⟩ := (Repo.answers_ofToken Repo.longZero).tooLong Repo.isOverlong_longZero
  rw [hlong] at hread
  rcases h repo [(Var.repo, Repo.longZero)] with ⟨a, ha⟩ | ⟨kind, field, value, reason, he⟩
  · rw [hread] at ha
    cases ha
  · rw [hread] at he
    cases he

end Address.Kind

end CodeAddress

/-
The grammar of a template. A path splits along a template into the literals and a piece for each slot (`Splits`), and of
several ways to split it, the preferred one (`Preferred`) has the pieces from left to right rather than not, and as long
as they can be. Reading a path gives the decoded pieces of the preferred way, and refuses exactly the paths that do not
split; along the templates of the service there is never a choice (`Endpoint.read?_preferred`).
-/
import CodeAddress.Proofs.Route.Table

namespace CodeAddress

open Endpoint

/-! ## Pieces -/

namespace Template

variable {name piece rest path : Text} {segs : List Segment} {pieces others : List (Option Text)}

/-- The slot of a name may have the piece in front of the rest of a path: no `@`, and no slash of a unit type, or for
other slots none at which the path reads as the separator. -/
def Takes (name piece rest : Text) : Prop :=
  '@' ∉ piece ∧
    if name = Var.unitType then '/' ∉ piece
    else ∀ before after, piece = before ++ '/' :: after → ¬ Route.separator <+: '/' :: (after ++ rest)

theorem takes_nil (name rest : Text) : Takes name [] rest := by
  refine ⟨List.not_mem_nil, ?_⟩
  split
  · exact List.not_mem_nil
  · intro before after h
    cases (List.append_eq_nil_iff.1 h.symm).2

theorem admits_cons_iff {c : Char} :
    admits name (c :: rest) = true ↔
      c ≠ '@' ∧ if name = Var.unitType then c ≠ '/' else ¬ Route.separator <+: c :: rest := by
  unfold admits
  by_cases hat : c = '@'
  · simp [hat]
  by_cases hn : name = Var.unitType
  · simp [hat, hn]
  · simp [hat, hn, ← Text.beginsWith_iff]

theorem takes_cons_iff {c : Char} :
    Takes name (c :: piece) rest ↔ admits name (c :: (piece ++ rest)) = true ∧ Takes name piece rest := by
  rw [admits_cons_iff, Takes, Takes, List.mem_cons, not_or, ne_eq, eq_comm, and_and_and_comm, and_congr_right_iff]
  intro _
  split
  · rw [List.mem_cons, not_or, ne_eq, eq_comm]
  constructor
  · intro h
    refine ⟨?_, fun before after hp => h (c :: before) after (congrArg (c :: ·) hp)⟩
    intro hsep
    -- only a slash begins the separator
    obtain ⟨r, hr⟩ := id hsep
    rw [separator_eq] at hr
    obtain rfl : '/' = c := (List.cons.inj hr).1
    exact h [] piece rfl hsep
  · rintro ⟨hc, h⟩ before after hp
    cases before with
    | nil =>
      cases hp
      exact hc
    | cons d before =>
      cases hp
      exact h before after rfl

/-- What a slot takes character by character are the pieces it may have. -/
theorem run_iff_takes : Run name piece rest ↔ Takes name piece rest := by
  induction piece with
  | nil => exact iff_of_true (run_nil name rest) (takes_nil name rest)
  | cons c piece ih => rw [run_cons, takes_cons_iff, ih]

/-! ## Splits -/

/-- The path is the literals and these pieces of the slots, in the order of the template; a slot that may be left out
has its lead before the piece, or neither. -/
inductive Splits : List Segment → Text → List (Option Text) → Prop
  | done : Splits [] [] []
  | literal {t path : Text} {segs : List Segment} {pieces : List (Option Text)} :
      Splits segs path pieces → Splits (.literal t :: segs) (t ++ path) pieces
  | present {slot : Slot} {piece path : Text} {segs : List Segment} {pieces : List (Option Text)} :
      piece ≠ [] → Takes slot.name piece path → Splits segs path pieces →
        Splits (.slot slot :: segs) (slot.lead.toList ++ (piece ++ path)) (some piece :: pieces)
  | absent {slot : Slot} {path : Text} {segs : List Segment} {pieces : List (Option Text)} :
      slot.optional = true → Splits segs path pieces → Splits (.slot slot :: segs) path (none :: pieces)

/-- Present is better than absent, and longer than shorter. -/
def Better : Option Text → Option Text → Prop
  | some piece, some other => other.length < piece.length
  | some _, none => True
  | none, _ => False

/-- The path splits into the pieces, and wherever another way to split it first differs, it has the worse piece. -/
def Preferred (segs : List Segment) (path : Text) (pieces : List (Option Text)) : Prop :=
  Splits segs path pieces ∧ ∀ others, Splits segs path others → others = pieces ∨ List.Lex Better pieces others

/-- The value of a piece. -/
def decoded (piece : Option Text) : Text := (piece.map Percent.unquote).getD []

theorem Better.asymm {piece other : Option Text} (h : Better piece other) : ¬ Better other piece := by
  cases piece with
  | none => exact h.elim
  | some piece =>
    cases other with
    | none => exact not_false
    | some other => exact Nat.lt_asymm h

/-- Only one way to split a path is preferred. -/
theorem Preferred.eq (h : Preferred segs path pieces) (h' : Preferred segs path others) : pieces = others := by
  rcases h.2 others h'.1 with heq | hlex
  · exact heq.symm
  rcases h'.2 pieces h.1 with heq | hlex'
  · exact heq
  · exact absurd hlex' (List.lex_asymm Better.asymm hlex)

/-! ## Splits and cuts -/

/-- The piece of which a cut has the value. -/
def piece? (value : Text) : Option Text := if value = [] then none else some value

theorem piece?_of_ne_nil (h : piece ≠ []) : piece? piece = some piece := if_neg h

/-- The pieces of a cut. -/
def piecesOf (values : List (Text × Text)) : List (Option Text) := values.map fun q => piece? q.2

theorem splits_iff_cut : Splits segs path pieces ↔ ∃ values, Cut segs path values ∧ piecesOf values = pieces := by
  constructor
  · intro h
    induction h with
    | done => exact ⟨[], .done, rfl⟩
    | literal _ ih =>
      obtain ⟨values, hcut, hp⟩ := ih
      exact ⟨values, .literal hcut, hp⟩
    | @present slot piece path segs pieces hne htakes _ ih =>
      obtain ⟨values, hcut, rfl⟩ := ih
      refine ⟨(slot.name, piece) :: values, .filled hne (run_iff_takes.2 htakes) hcut, ?_⟩
      rw [piecesOf, List.map_cons, piece?_of_ne_nil hne, piecesOf]
    | @absent slot path segs pieces hopt _ ih =>
      obtain ⟨values, hcut, rfl⟩ := ih
      exact ⟨(slot.name, []) :: values, .leftOut hopt hcut, rfl⟩
  · rintro ⟨values, hcut, rfl⟩
    induction hcut with
    | done => exact .done
    | literal _ ih => exact .literal ih
    | filled hne hrun _ ih =>
      rw [piecesOf, List.map_cons, piece?_of_ne_nil hne]
      exact .present hne (run_iff_takes.1 hrun) ih
    | leftOut hopt _ ih => exact .absent hopt ih

/-- The decoded pieces of a cut are its decoded values. -/
theorem zip_decoded_piecesOf {values : List (Text × Text)} (h : Cut segs path values) :
    (names segs).zip ((piecesOf values).map decoded) = values.map fun q => (q.1, Percent.unquote q.2) := by
  have hdecoded : ∀ value, decoded (piece? value) = Percent.unquote value := by
    intro value
    unfold piece?
    split
    · next hv =>
      rw [hv]
      rfl
    · rfl
  rw [← h.map_fst, piecesOf, List.map_map, List.zip_map']
  simp only [Function.comp_apply, hdecoded]

end Template

/-! ## Preference -/

namespace Endpoint

variable {name s : Text} {segs : List Segment} {values others : List (Text × Text)}

/-- Of two values, the longer one; a slot that is left out has the empty value. -/
def Longer (q other : Text × Text) : Prop := other.2.length < q.2.length

/-- A slot that is filled has the longest value, and behind it the values that are found there. -/
theorem takeSlot_preferred {run rest : Text} (hread : takeSlot name segs (run ++ rest) = some values)
    (hrun : Run name run rest) (hcut : Cut segs rest others)
    (ih : ∀ values, cutAlong segs rest = some values → others = values ∨ List.Lex Longer values others) :
    (name, run) :: others = values ∨ List.Lex Longer values ((name, run) :: others) := by
  obtain ⟨⟨best, found⟩, hlongest, rfl⟩ := Option.map_eq_some_iff.1 hread
  obtain ⟨-, rest', heq, -, hfound⟩ := longest_eq_some hlongest
  rcases Nat.lt_or_eq_of_le (length_le_of_longest hlongest hrun hcut.isSome_cutAlong) with hlt | hlen
  · exact .inr (.rel hlt)
  · obtain ⟨rfl, rfl⟩ := List.append_inj heq hlen
    rcases ih found hfound with rfl | hlex
    · exact .inl rfl
    · exact .inr (.cons hlex)

/-- Where the cut that is found first differs from another one, it has the longer value. -/
theorem cutAlong_preferred (hread : cutAlong segs s = some values) (hcut : Cut segs s others) :
    others = values ∨ List.Lex Longer values others := by
  induction segs generalizing s values others with
  | nil =>
    rw [(cut_nil_iff.1 (.of_cutAlong hread)).2, (cut_nil_iff.1 hcut).2]
    exact .inl rfl
  | cons seg segs ih =>
    rcases seg with t | ⟨name, _ | c⟩
    · obtain ⟨r, rfl, htail⟩ := cut_literal_iff.1 hcut
      rw [cutAlong_literal, Text.after?_eq_some_iff.2 rfl] at hread
      exact ih hread htail
    · rw [cutAlong_slot] at hread
      rcases cut_slot_iff.1 hcut with ⟨run, rest, others, -, hrun, htail, rfl, rfl⟩ | ⟨_, hopt, -⟩
      · exact takeSlot_preferred hread hrun htail fun _ h => ih h htail
      · cases hopt
    · rw [cutAlong_slot_lead] at hread
      rcases cut_slot_iff.1 hcut with ⟨run, rest, others, hne, hrun, htail, rfl, rfl⟩ | ⟨others, -, htail, rfl⟩
      · have hafter : Text.after? [c] (c :: (run ++ rest)) = some (run ++ rest) := Text.after?_eq_some_iff.2 rfl
        simp only [Option.toList_some, Letter.ofText_char, List.singleton_append, hafter] at hread
        obtain ⟨found, hfound⟩ := Option.isSome_iff_exists.1 (isSome_takeSlot hne hrun htail.isSome_cutAlong)
        rw [Option.bind_some, hfound, Option.some_or] at hread
        cases hread
        exact takeSlot_preferred hfound hrun htail fun _ h => ih h htail
      · rcases Option.or_eq_some_iff.1 hread with hread | ⟨-, hread⟩
        · obtain ⟨r, -, hread⟩ := Option.bind_eq_some_iff.1 hread
          obtain ⟨run, -, found, hne, -, -, -, rfl⟩ := takeSlot_eq_some hread
          exact .inr (.rel (List.length_pos_iff.2 hne))
        · obtain ⟨found, hfound, rfl⟩ := Option.map_eq_some_iff.1 hread
          rcases ih hfound htail with rfl | hlex
          · exact .inl rfl
          · exact .inr (.cons hlex)

theorem better_of_longer {q other : Text × Text} (h : Longer q other) :
    Template.Better (Template.piece? q.2) (Template.piece? other.2) := by
  rw [Template.piece?_of_ne_nil (List.length_pos_iff.1 (Nat.zero_lt_of_lt h))]
  unfold Template.piece?
  split
  · trivial
  · exact h

theorem lex_piecesOf (h : List.Lex Longer values others) :
    List.Lex Template.Better (Template.piecesOf values) (Template.piecesOf others) := by
  induction h with
  | nil => exact .nil
  | rel h => exact .rel (better_of_longer h)
  | cons _ ih => exact .cons ih

/-- The cut that is found is the preferred one. -/
theorem preferred_of_cutAlong (h : cutAlong segs s = some values) :
    Template.Preferred segs s (Template.piecesOf values) := by
  refine ⟨Template.splits_iff_cut.2 ⟨values, .of_cutAlong h, rfl⟩, fun pieces hpieces => ?_⟩
  obtain ⟨others, hcut, rfl⟩ := Template.splits_iff_cut.1 hpieces
  rcases cutAlong_preferred h hcut with rfl | hlex
  · exact .inl rfl
  · exact .inr (lex_piecesOf hlex)

/-! ## Main statement -/

theorem isSome_read?_iff_splits {e : Endpoint} :
    (e.read? s).isSome ↔ ∃ pieces, Template.Splits e.segments s pieces := by
  rw [read?, Option.isSome_map]
  constructor
  · intro h
    obtain ⟨values, hread⟩ := Option.isSome_iff_exists.1 h
    exact ⟨_, (preferred_of_cutAlong hread).1⟩
  · rintro ⟨pieces, h⟩
    obtain ⟨values, hcut, -⟩ := Template.splits_iff_cut.1 h
    exact hcut.isSome_cutAlong

theorem read?_eq_some_iff {e : Endpoint} {v : Vars} :
    e.read? s = some v ↔ ∃ pieces, Template.Preferred e.segments s pieces ∧
      v = (Template.names e.segments).zip (pieces.map Template.decoded) := by
  constructor
  · intro h
    obtain ⟨values, hread, rfl⟩ := Option.map_eq_some_iff.1 h
    exact ⟨_, preferred_of_cutAlong hread, (Template.zip_decoded_piecesOf (.of_cutAlong hread)).symm⟩
  · rintro ⟨pieces, hpieces, rfl⟩
    obtain ⟨values, hcut, -⟩ := Template.splits_iff_cut.1 hpieces.1
    obtain ⟨found, hread⟩ := Option.isSome_iff_exists.1 hcut.isSome_cutAlong
    rw [hpieces.eq (preferred_of_cutAlong hread), Template.zip_decoded_piecesOf (.of_cutAlong hread), read?, hread]
    rfl

/-- A template compiles exactly if its slots are well named, and then to its segments. -/
theorem compile?_eq_some_iff {route : Route} {method template : Text} {e : Endpoint} :
    compile? route method template = some e ↔
      Template.wellNamed (Template.segments template) = true ∧
        e = { route, method, template, segments := Template.segments template } := by
  rw [compile?]
  simp only [Option.ite_none_right_eq_some, Option.some.injEq, eq_comm (b := e)]

theorem segments_of_compile? {route : Route} {method template : Text} {e : Endpoint}
    (h : compile? route method template = some e) : e.segments = Template.segments template :=
  congrArg Endpoint.segments (compile?_eq_some_iff.1 h).2

/-- Along a definite template a path splits in one way at most. -/
theorem splits_unique {pieces others : List (Option Text)} (hd : Template.definite segs = true)
    (h : Template.Splits segs s pieces) (h' : Template.Splits segs s others) : pieces = others := by
  obtain ⟨values, hcut, rfl⟩ := Template.splits_iff_cut.1 h
  obtain ⟨values', hcut', rfl⟩ := Template.splits_iff_cut.1 h'
  rw [Template.Cut.eq_of_definite hd hcut hcut']

/-- A slot that must be filled, and one behind it that may be left out. -/
def pairShape : List Segment := [.slot { name := "A" }, .slot { name := "B", lead := some '/' }]

/-- A path is read along a template exactly if it splits along it, as the decoded pieces of the preferred way; and along
the templates of the service it splits in one way at most. -/
theorem read?_preferred :
    (∀ (route : Route) (method template : Text) (e : Endpoint), compile? route method template = some e →
      ∀ path, ((e.read? path).isSome ↔ ∃ pieces, Template.Splits (Template.segments template) path pieces) ∧
        ∀ v, e.read? path = some v ↔ ∃ pieces, Template.Preferred (Template.segments template) path pieces ∧
          v = (Template.names (Template.segments template)).zip (pieces.map Template.decoded)) ∧
    ∀ row ∈ RouteTable.standard, ∀ path pieces others, Template.Splits (Template.segments row.2.2) path pieces →
      Template.Splits (Template.segments row.2.2) path others → pieces = others := by
  constructor
  · intro route method template e he path
    rw [← segments_of_compile? he]
    exact ⟨isSome_read?_iff_splits, fun v => read?_eq_some_iff⟩
  · intro row hrow path pieces others h h'
    rw [RouteTable.standard_eq] at hrow
    obtain ⟨r, -, rfl⟩ := List.mem_map.1 hrow
    rw [Template.segments_text (Route.plain_shape r)] at h h'
    exact splits_unique (Route.definite_shape r) h h'

/-- Of two slots the first takes all that it can, and the second is left out; the path of the statistics of a revision
splits in one way. -/
theorem read?_preferred_pair :
    (∃ e, compile? .repo "GET" (Template.text pairShape) = some e ∧
      ∃ pieces, Template.Preferred (Template.segments (Template.text pairShape)) "a/b%2Fc" pieces ∧
        [("A".toList, "a/b/c".toList), ("B".toList, [])] =
          (Template.names (Template.segments (Template.text pairShape))).zip (pieces.map Template.decoded)) ∧
    ∃! pieces,
      Template.Splits (Template.segments (Template.text (Route.shape .repoStats))) "repos/a@b/-/stats" pieces := by
  constructor
  · have he : compile? .repo "GET" (Template.text pairShape) =
        some ⟨.repo, "GET", Template.text pairShape, pairShape⟩ := by
      rw [compile?, Template.segments_text (show Template.Plain pairShape by decide)]
      rfl
    have hread : read? ⟨.repo, "GET", Template.text pairShape, pairShape⟩ "a/b%2Fc" =
        some [("A".toList, "a/b/c".toList), ("B".toList, [])] := by decide +kernel
    exact ⟨_, he, ((read?_preferred.1 _ _ _ _ he _).2 _).1 hread⟩
  · have hrow : (Route.repoStats, Route.repoStats.method, Template.text (Route.shape .repoStats)) ∈
        RouteTable.standard := by
      rw [RouteTable.standard_eq]
      exact List.mem_map_of_mem (Route.mem_all .repoStats)
    have hsome : (Route.repoStats.endpoint.read? ("repos/a@b/-/stats" : Text)).isSome := by decide +kernel
    obtain ⟨pieces, hpieces⟩ := (read?_preferred.1 _ _ _ _ (Router.compile?_text .repoStats) _).1.1 hsome
    exact ⟨pieces, hpieces, fun others h => read?_preferred.2 _ hrow _ _ _ h hpieces⟩

end Endpoint

end CodeAddress

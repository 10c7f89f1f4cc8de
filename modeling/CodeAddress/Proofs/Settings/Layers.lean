/-
The layers of a project's settings. For each setting on its own the environment's text counts if it is not empty, else
the value in the client's section of the document (`given`), and loading is checking what counts: entries that do not
count (`counted` holds those that do) never change the outcome, whatever they are and in whatever order they come.
-/
import CodeAddress.Proofs.Toml.Distinct
import CodeAddress.Settings.Load
import CodeAddress.Vars
import Mathlib.Data.List.Infix

namespace CodeAddress

theorem Setting.mem_all (s : Setting) : s ∈ Setting.all := by
  cases s with
  | baseUrl => exact List.mem_cons_self ..
  | userAgent => exact List.mem_cons_of_mem _ (List.mem_cons_self ..)
  | timeout => exact List.mem_cons_of_mem _ (List.mem_cons_of_mem _ (List.mem_cons_self ..))

theorem Setting.mem_unknownKeys_iff {fields : List (Text × Value)} {k : Text} :
    k ∈ Setting.unknownKeys fields ↔ k ∈ fields.map Prod.fst ∧ ∀ s : Setting, s.key ≠ k := by
  refine List.mem_filter.trans (and_congr_right fun _ => ?_)
  rw [List.all_eq_true]
  exact ⟨fun h s => of_decide_eq_true (h s s.mem_all), fun h s _ => decide_eq_true (h s)⟩

namespace Settings

variable {root : Text} {file : Option (List UInt8)} {document fields : List (Text × Value)} {env : List (Text × Text)}
  {s : Setting} {v : Value} {k key : Text}

/-! ## What counts -/

/-- The document of a project, without fields if the project has none. -/
def readProject (root : Text) : Option (List UInt8) → Except SettingsError (List (Text × Value))
  | none => .ok []
  | some bytes => readDocument (documentPath root) bytes

/-- What counts for a setting: the environment's text if it is not empty, else the value in the section, if there is
one. -/
def given (document : List (Text × Value)) (env : List (Text × Text)) (s : Setting) : Option Value :=
  if Vars.get env s.envName ≠ [] then some (.text (Vars.get env s.envName))
  else (clientSection? document).bind fun fields => fields.lookup s.key

/-- The fields of the section, none without a section. -/
def sectionFields (document : List (Text × Value)) : List (Text × Value) := (clientSection? document).getD []

/-- The entries of the section that count: those for a setting that the environment says nothing about. -/
def counted (document : List (Text × Value)) (env : List (Text × Text)) : List (Text × Value) :=
  (sectionFields document).filter fun p => Setting.all.any fun s => s.key = p.1 ∧ Vars.get env s.envName = []

/-! ## Distinct keys -/

theorem distinct_of_table? {sub : List (Text × Value)} (h : (Value.table fields).Distinct)
    (hsub : table? key fields = some sub) : (Value.table sub).Distinct := by
  unfold table? at hsub
  split at hsub
  · next hlookup =>
    cases hsub
    cases h with
    | leaf h => exact h.elim
    | table _ h => exact h _ (Ordered.mem_of_lookup hlookup)
  · cases hsub

theorem exists_of_readDocument {path : Text} {bytes : List UInt8} (h : readDocument path bytes = .ok document) :
    ∃ t, Toml.Document.read t = .ok document := by
  unfold readDocument at h
  split at h
  · cases h
  · next t _ =>
    split at h
    · next hread =>
      cases h
      exact ⟨t, hread⟩
    · cases h
    · cases h

/-- The keys of a project's document are distinct in every table. -/
theorem distinct_of_readProject (h : readProject root file = .ok document) : (Value.table document).Distinct := by
  cases file with
  | none =>
    cases h
    exact .table List.nodup_nil (by simp)
  | some bytes =>
    obtain ⟨t, hread⟩ := exists_of_readDocument h
    exact Toml.Document.distinct_of_read hread

theorem nodup_sectionFields (h : readProject root file = .ok document) :
    ((sectionFields document).map Prod.fst).Nodup := by
  unfold sectionFields
  cases hsection : clientSection? document with
  | none => exact List.nodup_nil
  | some fields =>
    obtain ⟨tool, htool, hfields⟩ := Option.bind_eq_some_iff.1 hsection
    have hdistinct := distinct_of_table? (distinct_of_table? (distinct_of_readProject h) htool) hfields
    cases hdistinct with
    | leaf h => exact h.elim
    | table hkeys _ => exact hkeys

/-! ## Loading -/

theorem ofEnv_eq (env : List (Text × Text)) :
    Raw.ofEnv env = Raw.ofLookup fun s =>
      if Vars.get env s.envName ≠ [] then some (.text (Vars.get env s.envName)) else none := by
  unfold Raw.ofEnv
  congr 1
  funext s
  unfold Vars.get
  cases env.lookup s.envName with
  | none => rfl
  | some t => cases t <;> rfl

theorem lookup_sectionFields (document : List (Text × Value)) (key : Text) :
    (sectionFields document).lookup key = (clientSection? document).bind fun fields => fields.lookup key := by
  unfold sectionFields
  cases clientSection? document <;> rfl

theorem ofLayers_eq (document : List (Text × Value)) (env : List (Text × Text)) :
    ofLayers (sectionFields document) env = ofRaw (Raw.ofLookup (given document env)) := by
  have hone : ∀ s : Setting, ((if Vars.get env s.envName ≠ [] then some (Value.text (Vars.get env s.envName)) else none)
      <|> (sectionFields document).lookup s.key) = given document env s := by
    intro s
    rw [lookup_sectionFields, given]
    split <;> rfl
  rw [ofLayers, ofEnv_eq, ← funext hone]
  rfl

/-- What is loaded behind a document that can be read. -/
theorem load_eq (h : readProject root file = .ok document) (env : List (Text × Text)) :
    load root file env = {
      settings := ofRaw (Raw.ofLookup (given document env))
      unknownKeys := Setting.unknownKeys (sectionFields document) } := by
  have hsection : readSection root file = .ok (sectionFields document) := by
    cases file with
    | none =>
      cases h
      rfl
    | some bytes => exact map_eq_ok_iff.2 ⟨document, h, rfl⟩
  rw [load, hsection, ← ofLayers_eq]

/-- What counts for a setting that the environment leaves open is its entry. -/
theorem given_eq_some_iff (h : readProject root file = .ok document) :
    given document env s = some v ↔
      (Vars.get env s.envName ≠ [] ∧ v = .text (Vars.get env s.envName)) ∨
      (Vars.get env s.envName = [] ∧ (s.key, v) ∈ counted document env) := by
  unfold given
  by_cases hopen : Vars.get env s.envName = []
  · have hcounted : (s.key, v) ∈ counted document env ↔ (s.key, v) ∈ sectionFields document := by
      refine List.mem_filter.trans ⟨And.left, fun hmem => ⟨hmem, ?_⟩⟩
      exact List.any_eq_true.2 ⟨s, Setting.mem_all s, decide_eq_true ⟨rfl, hopen⟩⟩
    rw [if_neg (not_not_intro hopen), ← lookup_sectionFields, Ordered.lookup_eq_some_iff_mem (nodup_sectionFields h),
      ← hcounted]
    exact ⟨fun hmem => .inr ⟨hopen, hmem⟩, fun hor => hor.elim (fun hand => absurd hopen hand.1) And.right⟩
  · rw [if_pos hopen, Option.some.injEq]
    exact ⟨fun heq => .inl ⟨hopen, heq.symm⟩,
      fun hor => hor.elim (fun hand => hand.2.symm) fun hand => absurd hand.1 hopen⟩

/-- Two projects with the same entries that count have the same said of every setting. -/
theorem given_congr {root' : Text} {file' : Option (List UInt8)} {document' : List (Text × Value)}
    (h : readProject root file = .ok document) (h' : readProject root' file' = .ok document')
    (hcounted : ∀ p, p ∈ counted document' env ↔ p ∈ counted document env) :
    given document' env = given document env := by
  funext s
  refine Option.ext fun v => ?_
  rw [given_eq_some_iff h', given_eq_some_iff h, hcounted]

/-- Loading checks what counts for each setting: the environment's text if it is not empty, else the value in the
section, else nothing. So two projects whose sections have the same entries for the settings that the environment leaves
open give the same outcome. Each key of the section that names no setting is reported once, in the order of the
document; and without a document or a section the outcome is that of the environment alone. -/
theorem load_layers (h : readProject root file = .ok document) (env : List (Text × Text)) :
    (load root file env).settings = ofRaw (Raw.ofLookup (given document env)) ∧
    (∀ root' file' document', readProject root' file' = .ok document' →
      (∀ p, p ∈ counted document' env ↔ p ∈ counted document env) →
        (load root' file' env).settings = (load root file env).settings) ∧
    (load root file env).unknownKeys.Nodup ∧
    (load root file env).unknownKeys.Sublist ((sectionFields document).map Prod.fst) ∧
    (∀ k, k ∈ (load root file env).unknownKeys ↔
      k ∈ (sectionFields document).map Prod.fst ∧ ∀ s : Setting, s.key ≠ k) ∧
    (file = none ∨ clientSection? document = none →
      load root file env = { settings := ofRaw (Raw.ofEnv env), unknownKeys := [] }) := by
  rw [load_eq h]
  refine ⟨rfl, fun root' file' document' h' hcounted => ?_, ?_, List.filter_sublist,
    fun k => Setting.mem_unknownKeys_iff, ?_⟩
  · rw [load_eq h', given_congr h h' hcounted]
  · exact (nodup_sectionFields h).sublist List.filter_sublist
  · intro hnone
    have hsection : clientSection? document = none := by
      rcases hnone with rfl | hnone
      · cases h
        rfl
      · exact hnone
    have hgiven : given document env = fun s =>
        if Vars.get env s.envName ≠ [] then some (.text (Vars.get env s.envName)) else none := by
      funext s
      rw [given, hsection]
      rfl
    rw [ofEnv_eq, hgiven, sectionFields, hsection]
    rfl

/-- An unknown key, and a bad value under one that the environment overrides. -/
theorem load_layers_overridden :
    (load "/p" (some (Utf8.encode "[tool.sgclient]\ntokn = 1\ntimeout_seconds = 'soon'\nuser_agent = 'ci'"))
      [(Setting.timeout.envName, "5")]).settings =
      (load "/q" (some (Utf8.encode "x = 1\n[tool]\nsgclient.user_agent = 'ci'"))
        [(Setting.timeout.envName, "5")]).settings ∧
    (load "/p" (some (Utf8.encode "[tool.sgclient]\ntokn = 1\ntimeout_seconds = 'soon'\nuser_agent = 'ci'"))
      [(Setting.timeout.envName, "5")]).unknownKeys = [("tokn" : Text)] := by
  have hp : readProject "/p"
      (some (Utf8.encode "[tool.sgclient]\ntokn = 1\ntimeout_seconds = 'soon'\nuser_agent = 'ci'")) =
      .ok [("tool", .table [("sgclient", .table
        [("tokn", .integer 1), ("timeout_seconds", .text "soon"), ("user_agent", .text "ci")])])] := by decide +kernel
  have hq : readProject "/q" (some (Utf8.encode "x = 1\n[tool]\nsgclient.user_agent = 'ci'")) =
      .ok [("x", .integer 1), ("tool", .table [("sgclient", .table [("user_agent", .text "ci")])])] := by decide +kernel
  refine ⟨(load_layers hq _).2.1 _ _ _ hp fun p => ?_, ?_⟩
  · rfl
  · rw [load_eq hp]
    rfl

end Settings

end CodeAddress

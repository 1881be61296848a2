import Mathlib
import ImageCatalog.Config.File
import ImageCatalog.Proofs.Toml.Editors

/-!
# Saving and loading settings

Saving writes every setting that is set into the settings file, through an
editor of TOML documents; loading reads the file back with the strict reader
and lets the environment override it. The editor is a parameter: what is
proved holds of every editor that keeps the laws `Toml.Editor.ReadsBack`.

Results:
* `Settings.get_ofPairs`: a setting of a table's settings has the value of the
  table's last entry for its key, or its default; so tables with the same
  entries for every key give the same settings, and giving a key a value gives
  its setting that value (`get_ofPairs_put`).
* `Settings.get_ofPairs_toPairs`: the settings of the pairs of some settings
  are those settings, except that a setting without a value takes its default.
  For settings whose values are of their declared kinds (`Settings.Typed`)
  nothing changes.
* `Settings.save_reads`: saving settings of the declared kinds succeeds, and the
  saved text reads as the document saved into, with every setting that is set
  given its value.
* `Settings.load_save_roundTrip`: loading what was saved, without overriding
  variables, gives the settings that were saved where there was no file. Where
  there was one, a setting that is set has its saved value, and one that is
  not has the value the file gave it.
* `Settings.load_save_keeps_stale_key`: so saving settings with no endpoint over
  a file that has one keeps its line, and loading gives the endpoint back.
-/

namespace ImageCatalog.Config

open ImageCatalog.Toml

namespace Field

instance : LawfulBEq Field where
  eq_of_beq {a b} := by cases a <;> cases b <;> decide
  rfl {a} := by cases a <;> decide

theorem mem_all (f : Field) : f ∈ all := by
  cases f <;> simp [all]

theorem all_nodup : all.Nodup := by
  decide

theorem find?_all (g : Field) : all.find? (fun x => x == g) = some g := by
  cases g <;> rfl

theorem ofKey?_key (f : Field) : ofKey? f.key = some f := by
  cases f <;> rfl

theorem key_of_ofKey? {k : String} {f : Field} (h : ofKey? k = some f) : f.key = k := by
  simpa using List.find?_some h

/-- Every setting has a key of its own. -/
theorem key_inj {f g : Field} : f.key = g.key ↔ f = g := by
  constructor
  · intro h
    simpa [ofKey?_key] using congrArg ofKey? h
  · rintro rfl
    rfl

theorem isBareKey_key (f : Field) : IsBareKey f.key := by
  have h : f.key.toList ≠ [] ∧ f.key.toList.all isBareKeyChar = true := by
    cases f <;> decide +kernel
  exact ⟨h.1, List.all_eq_true.1 h.2⟩

/-- Whether a value is of the kind a setting is declared with, the kind of
its default: a text for the protocol version, a truth value or an integer for
the others that have a default, and a text or nothing for the endpoint, the
organization and the account. -/
def admits (f : Field) (v : Value) : Bool :=
  match f.default, v with
  | .none, .none | .none, .str _ => true
  | .str _, .str _ | .bool _, .bool _ | .int _, .int _ => true
  | _, _ => false

/-- A value of the declared kind is simple, or it is nothing where nothing is
the default. -/
theorem admits_cases {f : Field} {v : Value} (h : f.admits v = true) :
    (v = .none ∧ f.default = .none) ∨ v.Simple := by
  unfold admits at h
  split at h
  · next hd => exact .inl ⟨rfl, hd⟩
  · exact .inr (.str _)
  · exact .inr (.str _)
  · exact .inr (.bool _)
  · exact .inr (.int _)
  · cases h

end Field

namespace Settings

/-- Settings whose values are all of their declared kinds. -/
def Typed (s : Settings) : Prop := ∀ f : Field, f.admits (s.get f) = true

instance (s : Settings) : Decidable s.Typed :=
  decidable_of_iff (Field.all.all fun f => f.admits (s.get f))
    (by simp [Typed, List.all_eq_true, Field.mem_all])

@[simp] theorem get_empty (g : Field) : ({} : Settings).get g = g.default := by
  simp [get, Field.find?_all]

@[simp] theorem get_set (s : Settings) (f : Field) (v : Value) (g : Field) :
    (s.set f v).get g = if g = f then v else s.get g := by
  simp [set, get, Field.find?_all]

theorem ofPairs_append_key (ps : List (String × Value)) (f : Field) (v : Value) :
    ofPairs (ps ++ [(f.key, v)]) = (ofPairs ps).set f v := by
  simp [ofPairs, List.foldl_append, Field.ofKey?_key]

/-- The settings of pairs keyed by distinct fields: each field listed has its
value, the others their defaults. -/
theorem get_ofPairs_fields (fs : List Field) (hfs : fs.Nodup) (w : Field → Value) (g : Field) :
    (ofPairs (fs.map fun f => (f.key, w f))).get g = if g ∈ fs then w g else g.default := by
  induction fs using List.reverseRecOn with
  | nil => simp [ofPairs]
  | append_singleton fs f ih =>
    rw [List.nodup_append] at hfs
    rw [List.map_append, List.map_singleton, ofPairs_append_key, get_set, ih hfs.1]
    by_cases hg : g = f
    · simp [hg]
    · simp [hg]

/-- The pairs of some settings: the fields that are set, with their values. -/
theorem toPairs_eq (s : Settings) :
    s.toPairs = (Field.all.filter fun f => !(s.get f).isNone).map fun f => (f.key, s.get f) := by
  unfold toPairs
  induction Field.all with
  | nil => rfl
  | cons f fs ih =>
    by_cases h : (s.get f).isNone
    · simp [h, ih]
    · simp [h, ih]

/-- The settings of the pairs of some settings: a setting that is set keeps
its value, one that is not takes its default. -/
theorem get_ofPairs_toPairs (s : Settings) (g : Field) :
    (ofPairs s.toPairs).get g = if (s.get g).isNone then g.default else s.get g := by
  rw [toPairs_eq, get_ofPairs_fields _ (Field.all_nodup.filter _)]
  by_cases h : (s.get g).isNone
  · simp [h]
  · simp [h, Field.mem_all]

/-- Of settings of the declared kinds, one without a value is one whose default
is nothing. -/
theorem Typed.default_eq {s : Settings} (hs : s.Typed) {g : Field} (h : (s.get g).isNone) :
    g.default = s.get g := by
  rcases Field.admits_cases (hs g) with ⟨hnone, hdef⟩ | hsimple
  · rw [hnone, hdef]
  · simp [hsimple.isNone_eq] at h

theorem get_ofPairs_toPairs_typed {s : Settings} (hs : s.Typed) (g : Field) :
    (ofPairs s.toPairs).get g = s.get g := by
  rw [get_ofPairs_toPairs]
  split
  · next h => exact hs.default_eq h
  · rfl

/-- Without overriding variables the environment changes nothing. -/
theorem applyEnvironment_nil (s : Settings) : s.applyEnvironment [] = .ok s := by
  rfl

/-- Loading a text that reads as a table, with no overriding variables, gives
the table's settings. -/
theorem load_of_readTable {text : String} {t : Table} (h : readTable text = .ok t) :
    load text [] = .ok (ofPairs t) := by
  unfold load
  rw [h]
  exact applyEnvironment_nil _

/-! ## The settings of a table -/

/-- A setting of a table's settings has the value of the table's last entry for
its key, and its default when the table has none. -/
theorem get_ofPairs (t : Table) (g : Field) :
    (ofPairs t).get g = ((t.filter (·.1 == g.key)).getLast?.map Prod.snd).getD g.default := by
  induction t using List.reverseRecOn with
  | nil => simp [ofPairs]
  | append_singleton t e ih =>
    obtain ⟨k, v⟩ := e
    rw [List.filter_append]
    cases hk : Field.ofKey? k with
    | none =>
      -- a key that is no setting's is passed over
      have hstep : ofPairs (t ++ [(k, v)]) = ofPairs t := by
        simp [ofPairs, List.foldl_append, hk]
      have hne : (k == g.key) = false := by
        rw [beq_eq_false_iff_ne]
        rintro rfl
        simp [Field.ofKey?_key] at hk
      simp [hstep, ih, hne]
    | some f =>
      obtain rfl := Field.key_of_ofKey? hk
      rw [ofPairs_append_key, get_set, ih]
      by_cases hg : g = f
      · simp [hg]
      · have hne : (f.key == g.key) = false := by
          rw [beq_eq_false_iff_ne, ne_eq, Field.key_inj]
          exact Ne.symm hg
        simp [hg, hne]

/-- Tables with the same entries for every key give the same settings. -/
theorem get_ofPairs_of_sameEntries {t t' : Table} (h : t.SameEntries t') (g : Field) :
    (ofPairs t).get g = (ofPairs t').get g := by
  rw [get_ofPairs, get_ofPairs, h g.key]

/-- Giving a setting's key a value in a table gives the setting that value in
the table's settings. -/
theorem get_ofPairs_put (t : Table) (f : Field) (v : Value) (g : Field) :
    (ofPairs (t.put f.key v)).get g = if g = f then v else (ofPairs t).get g := by
  rw [get_ofPairs, get_ofPairs, Table.getLast?_filter_put]
  by_cases hg : g = f
  · simp [hg]
  · have hne : f.key ≠ g.key := fun h => hg (Field.key_inj.1 h).symm
    simp [hg, hne]

/-! ## Saving through an editor -/

section Editor

variable {D : Type} {ed : Editor D}

/-- Giving the keys of distinct settings simple values one after the other:
every step succeeds, and the document is then written as a text that reads as
the table it started from, with each of those settings given its value. -/
theorem foldlM_set_reads (hed : ed.ReadsBack) (w : Field → Value) (fs : List Field)
    (hfs : ∀ f ∈ fs, (w f).Simple) {d : D} {t : Table} (ht : readTable (ed.dump d) = .ok t) :
    ∃ d' t', (fs.map fun f => (f.key, w f)).foldlM (fun d p => ed.set d p.1 p.2) d = .ok d' ∧
      readTable (ed.dump d') = .ok t' ∧ ∀ g, (ofPairs t').get g = if g ∈ fs then w g else (ofPairs t).get g := by
  induction fs generalizing d t with
  | nil => exact ⟨d, t, rfl, ht, fun g => by simp⟩
  | cons f fs ih =>
    obtain ⟨d₁, t₁, hset, ht₁, hsame⟩ := hed.set ht (Field.isBareKey_key f) (hfs f List.mem_cons_self)
    obtain ⟨d', t', hfold, ht', hget⟩ := ih (fun g hg => hfs g (List.mem_cons_of_mem _ hg)) ht₁
    refine ⟨d', t', ?_, ht', fun g => ?_⟩
    · simp only [List.map_cons, List.foldlM_cons, hset, bind, Except.bind]
      exact hfold
    · -- the first step gave `f` its value; the later ones give theirs
      rw [hget, get_ofPairs_of_sameEntries hsame, get_ofPairs_put]
      by_cases hin : g ∈ fs
      · simp [hin]
      · by_cases hg : g = f
        · simp [hg]
        · simp [hin, hg]

/-- Saving settings of the declared kinds into a document written as a text
that reads as the table `t` succeeds, and the saved text reads as `t` with
every setting that is set given its value. -/
theorem save_reads (hed : ed.ReadsBack) {s : Settings} (hs : s.Typed) (existing : Option String) {doc : D}
    {t : Table} (hdoc : (existing.map ed.parse).getD (.ok ed.empty) = .ok doc)
    (ht : readTable (ed.dump doc) = .ok t) :
    ∃ text, s.save ed existing = .ok text ∧ ∃ t', readTable text = .ok t' ∧
      ∀ g, (ofPairs t').get g = if (s.get g).isNone then (ofPairs t).get g else s.get g := by
  -- the settings that are set hold simple values
  have hset : ∀ f ∈ Field.all.filter (fun f => !(s.get f).isNone), (s.get f).Simple := by
    intro f hf
    rw [List.mem_filter] at hf
    rcases Field.admits_cases (hs f) with ⟨hnone, -⟩ | hsimple
    · simp [hnone, Value.isNone] at hf
    · exact hsimple
  obtain ⟨d', t', hfold, ht', hget⟩ := foldlM_set_reads hed s.get _ hset ht
  refine ⟨ed.dump d', ?_, t', ht', fun g => ?_⟩
  · unfold save
    rw [hdoc, toPairs_eq]
    simp only [hfold]
    rfl
  · rw [hget]
    by_cases h : (s.get g).isNone
    · simp [h]
    · simp [h, Field.mem_all]

end Editor

variable {D : Type} {ed : Editor D}

/-- Settings of the declared kinds, saved with an editor that keeps the laws
and loaded back with no overriding variables: where there was no file they come
back as they were, and where there was one, the settings that are set come
back as they were and the others as the file gave them. So do the settings of
their pairs. -/
theorem load_save_roundTrip (hed : ed.ReadsBack) {s : Settings} (hs : s.Typed) :
    (∀ f, (ofPairs s.toPairs).get f = s.get f) ∧
      (∃ text, s.save ed none = .ok text ∧ ∃ s', load text [] = .ok s' ∧ ∀ f, s'.get f = s.get f) ∧
      ∀ {E : String} {d : D} {t : Table}, ed.parse E = .ok d → readTable E = .ok t →
        ∃ text, s.save ed (some E) = .ok text ∧ ∃ s', load text [] = .ok s' ∧
          ∀ f, s'.get f = if (s.get f).isNone then (ofPairs t).get f else s.get f := by
  refine ⟨get_ofPairs_toPairs_typed hs, ?_, ?_⟩
  · obtain ⟨text, hsave, t', ht', hget⟩ := save_reads hed hs none rfl hed.empty
    refine ⟨text, hsave, ofPairs t', load_of_readTable ht', fun f => ?_⟩
    rw [hget]
    -- an empty document gives every setting its default
    split
    · next h =>
      rw [← hs.default_eq h]
      exact get_empty f
    · rfl
  · intro E d t hparse hE
    obtain ⟨text, hsave, t', ht', hget⟩ := save_reads hed hs (some E) hparse ((hed.parse hparse).trans hE)
    exact ⟨text, hsave, ofPairs t', load_of_readTable ht', hget⟩

/-- The settings with an endpoint whose text holds a quote, a backslash, a
line end and a tab, compatible identifiers and a negative request timeout,
saved with the editor of plain lines. -/
theorem load_save_roundTrip_escapes :
    let s := ((({} : Settings).set .endpoint (.str "https://a\"b\\c\nd\te")).set .compat (.bool true)).set
      .requestTimeoutSeconds (.int (-5))
    plainEditor.ReadsBack ∧ s.Typed ∧ (∀ f, (ofPairs s.toPairs).get f = s.get f) ∧
      (∃ text, s.save plainEditor none = .ok text ∧ ∃ s', load text [] = .ok s' ∧ ∀ f, s'.get f = s.get f) ∧
      ∀ {E : String} {d : PlainDoc} {t : Table}, plainEditor.parse E = .ok d → readTable E = .ok t →
        ∃ text, s.save plainEditor (some E) = .ok text ∧ ∃ s', load text [] = .ok s' ∧
          ∀ f, s'.get f = if (s.get f).isNone then (ofPairs t).get f else s.get f :=
  ⟨plainEditor_readsBack, by decide +kernel, load_save_roundTrip plainEditor_readsBack (by decide +kernel)⟩

/-- Where there is a file, a key of the file that the saved settings leave
unset stays in it: saving the settings with no endpoint over a file that has
one keeps its line and adds the lines of the others after it, and loading
gives the endpoint back. -/
theorem load_save_keeps_stale_key :
    ({} : Settings).Typed ∧ ({} : Settings).get .endpoint = .none ∧
      Settings.save {} plainEditor (some "endpoint = \"https://old\"\n") =
        .ok ("endpoint = \"https://old\"\napi_version = \"5.1\"\nverify_ssl = true\ncompat = false\n" ++
          "catalog_ttl_minutes = 30\nimage_list_ttl_minutes = 6\ncapture_timeout_minutes = 10\n" ++
          "capture_poll_seconds = 15\ntask_poll_seconds = 5\ntask_timeout_minutes = 60\n" ++
          "request_timeout_seconds = 60\n") ∧
      ((Settings.load ("endpoint = \"https://old\"\napi_version = \"5.1\"\nverify_ssl = true\n" ++
          "compat = false\ncatalog_ttl_minutes = 30\nimage_list_ttl_minutes = 6\n" ++
          "capture_timeout_minutes = 10\ncapture_poll_seconds = 15\ntask_poll_seconds = 5\n" ++
          "task_timeout_minutes = 60\nrequest_timeout_seconds = 60\n") []).toOption.map
        fun s => (s.get .endpoint).text?) = some (some "https://old") := by
  refine ⟨by decide +kernel, rfl, by decide +kernel, by decide +kernel⟩

end Settings

end ImageCatalog.Config

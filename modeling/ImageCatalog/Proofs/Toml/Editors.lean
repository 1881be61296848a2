import ImageCatalog.Toml.Editor
import ImageCatalog.Proofs.Toml.Lines

/-!
# Laws of a TOML editor

Saving settings goes through an editor (`Editor`) that nothing here
defines: what it does is given by laws, stated against the strict reader
(`Editor.ReadsBack`). A document the editor takes in from a text is written
back as a text that reads as that one; giving a bare key a truth value, an
integer or a text succeeds, and changes what the written text reads as the
way assigning to a key of a table does (`Table.put`), up to where the entry of
the key stands among the others (`Table.SameEntries`).

`plainEditor`, an editor of documents made of `key = value` lines, keeps the
laws (`plainEditor_readsBack`), so they can be met by an editor that really
writes TOML text.
-/

namespace ImageCatalog.Toml

open ImageCatalog.Config

/-! ## Tables as a reader gives them -/

/-- The table with the key `k` given the value `v`, as assigning to a key of a
table does: where `k` has an entry its value changes in place, otherwise the
entry is added last. -/
def Table.put (t : Table) (k : String) (v : Value) : Table :=
  if k ∈ t.map Prod.fst then t.replace k v else t ++ [(k, v)]

/-- Two tables with the same entries for every key, in the same order: they
differ at most in how the entries of different keys are placed among each
other. -/
def Table.SameEntries (t t' : Table) : Prop :=
  ∀ k, t.filter (·.1 == k) = t'.filter (·.1 == k)

theorem Table.SameEntries.refl (t : Table) : t.SameEntries t := fun _ => rfl

/-- After a key is given a value, the last entry of that key has the value,
and the entries of every other key are as they were. -/
theorem Table.getLast?_filter_put (t : Table) (k : String) (v : Value) (k' : String) :
    ((t.put k v).filter (·.1 == k')).getLast?.map Prod.snd =
      if k = k' then some v else (t.filter (·.1 == k')).getLast?.map Prod.snd := by
  unfold put
  split
  · next hk =>
    -- the entries are changed in place, and no entry changes its key
    have hmap : (t.replace k v).filter (·.1 == k') =
        (t.filter (·.1 == k')).map fun e => if e.1 == k then (e.1, v) else e := by
      simp only [replace, List.filter_map]
      congr 1
      apply List.filter_congr
      intro e _
      simp only [Function.comp]
      split <;> rfl
    rw [hmap, List.getLast?_map]
    split
    · next hkk =>
      subst hkk
      obtain ⟨e, he, hek⟩ := List.mem_map.1 hk
      have hne : t.filter (·.1 == k) ≠ [] := List.ne_nil_of_mem (List.mem_filter.2 ⟨he, by simp [hek]⟩)
      obtain ⟨last, hlast⟩ := Option.isSome_iff_exists.1 (List.getLast?_isSome.2 hne)
      have hkey : last.1 = k := by
        simpa using (List.mem_filter.1 (List.mem_of_getLast? hlast)).2
      simp [hlast, hkey]
    · next hkk =>
      -- an entry of another key keeps its value
      congr 1
      rcases hlast : (t.filter (·.1 == k')).getLast? with _ | e
      · simp only [hlast, Option.map_none]
      · have : e.1 = k' := by
          simpa using (List.mem_filter.1 (List.mem_of_getLast? hlast)).2
        have hek : (e.1 == k) = false := by simp [this, Ne.symm hkk]
        simp only [hlast, Option.map_some, hek, Bool.false_eq_true, if_false]
  · next hk =>
    rw [List.filter_append]
    split
    · next hkk =>
      subst hkk
      have hnone : t.filter (·.1 == k) = [] := by
        rw [List.filter_eq_nil_iff]
        intro e he hek
        exact hk (List.mem_map.2 ⟨e, he, by simpa using hek⟩)
      simp [hnone]
    · next hkk =>
      simp [hkk]

/-! ## The laws -/

/-- What saving relies on of an editor, as the strict reader reads the texts
it writes. -/
structure Editor.ReadsBack {D : Type} (ed : Editor D) : Prop where
  /-- The empty document is written as a text with no entries. -/
  empty : readTable (ed.dump ed.empty) = .ok []
  /-- A document taken in from a text is written as a text that reads as that
  text does. -/
  parse : ∀ {text : String} {d : D}, ed.parse text = .ok d → readTable (ed.dump d) = readTable text
  /-- A key that may be written bare can be given a truth value, an integer or
  a text, and the document is then written as a text that reads as before,
  with the key given the value. -/
  set : ∀ {d : D} {t : Table} {k : String} {v : Value}, readTable (ed.dump d) = .ok t → IsBareKey k →
    v.Simple → ∃ d' t', ed.set d k v = .ok d' ∧ readTable (ed.dump d') = .ok t' ∧ t'.SameEntries (t.put k v)

/-! ## An editor of plain lines -/

-- decided through `List.all`, so that no instance that enumerates characters is found
instance (k : String) : Decidable (IsBareKey k) :=
  decidable_of_iff (k.toList ≠ [] ∧ k.toList.all isBareKeyChar = true) (by rw [List.all_eq_true]; rfl)

namespace PlainLine

/-- The line of a key and a value, where the key may be written bare and the
value is simple. -/
def of? (k : String) (v : Value) : Option PlainLine :=
  match h : simpleText v with
  | some t => if hk : IsBareKey k then some ⟨k, v, t, hk, h⟩ else none
  | none => none

theorem pair_of? {k : String} {v : Value} {l : PlainLine} (h : of? k v = some l) : l.pair = (k, v) := by
  unfold of? at h
  split at h
  · split at h
    · cases h
      rfl
    · cases h
  · cases h

theorem of?_isSome {k : String} {v : Value} (hk : IsBareKey k) (hv : v.Simple) : (of? k v).isSome := by
  obtain ⟨t, ht⟩ := Option.isSome_iff_exists.1 (simpleText_isSome_iff.2 hv)
  unfold of?
  split
  · simp [hk]
  · next h => simp [h] at ht

/-- The lines of the entries of a table, each with a bare key and a simple value. -/
theorem map_pair_of_mapM {t : Table} {ls : List PlainLine} (h : t.mapM (fun e => of? e.1 e.2) = some ls) :
    ls.map pair = t := by
  induction t generalizing ls with
  | nil =>
    simp only [List.mapM_nil, pure, Option.some.injEq] at h
    subst h
    rfl
  | cons e t ih =>
    simp only [List.mapM_cons, bind, Option.bind_eq_some_iff, pure, Option.some.injEq] at h
    obtain ⟨l, hl, ls', hls', rfl⟩ := h
    simp [pair_of? hl, ih hls']

end PlainLine

/-- A document of lines with distinct keys. -/
structure PlainDoc where
  lines : List PlainLine
  distinct : (lines.map PlainLine.key).Nodup

namespace PlainDoc

/-- The document with a line in place of the line of its key, or added last
when the key has none. -/
def set (d : PlainDoc) (l : PlainLine) : PlainDoc :=
  if hk : l.key ∈ d.lines.map PlainLine.key then
    ⟨d.lines.map (fun l' => if l'.key = l.key then l else l'), by
      have hkeys : (d.lines.map fun l' => if l'.key = l.key then l else l').map PlainLine.key =
          d.lines.map PlainLine.key := by
        simp only [List.map_map]
        apply List.map_congr_left
        intro l' _
        by_cases h : l'.key = l.key <;> simp [h]
      rw [hkeys]
      exact d.distinct⟩
  else ⟨d.lines ++ [l], by
      rw [List.map_append]
      refine List.nodup_append.2 ⟨d.distinct, by simp, ?_⟩
      intro a ha b hb
      rw [List.mem_singleton.1 hb]
      rintro rfl
      exact hk ha⟩

/-- The text of a document: its lines one after the other. -/
def text (d : PlainDoc) : String := String.join (d.lines.map PlainLine.text)

theorem readTable_text (d : PlainDoc) : readTable d.text = .ok (d.lines.map PlainLine.pair) :=
  readTable_lines d.lines d.distinct

/-- Setting a line gives the table of its lines the line's key and value. -/
theorem map_pair_set (d : PlainDoc) (l : PlainLine) :
    (d.set l).lines.map PlainLine.pair = Table.put (d.lines.map PlainLine.pair) l.key l.value := by
  have hkeys : (d.lines.map PlainLine.pair).map Prod.fst = d.lines.map PlainLine.key := by
    simp [List.map_map, Function.comp_def, PlainLine.pair]
  unfold set Table.put
  rw [hkeys]
  split
  · next hk =>
    simp only [Table.replace, List.map_map]
    apply List.map_congr_left
    intro l' _
    by_cases h : l'.key = l.key <;> simp [h, PlainLine.pair]
  · next hk =>
    simp [PlainLine.pair]

end PlainDoc

/-- An editor of documents of `key = value` lines: it takes in a text whose
entries all have bare keys and simple values, and adds or replaces a line
when a key is given a value. -/
def plainEditor : Editor PlainDoc where
  empty := ⟨[], List.nodup_nil⟩
  parse text :=
    match readTable text with
    | .error e => .error e.message
    | .ok t =>
      match t.mapM (fun e => PlainLine.of? e.1 e.2) with
      | some ls => if h : (ls.map PlainLine.key).Nodup then .ok ⟨ls, h⟩ else .error "a key is written twice"
      | none => .error "a key is not bare, or a value is not a truth value, an integer or a text"
  set d k v :=
    match PlainLine.of? k v with
    | some l => .ok (d.set l)
    | none => .error "the key is not bare, or the value is not a truth value, an integer or a text"
  dump := PlainDoc.text

theorem plainEditor_parse {text : String} {d : PlainDoc} (h : plainEditor.parse text = .ok d) :
    readTable text = .ok (d.lines.map PlainLine.pair) := by
  simp only [plainEditor] at h
  split at h
  · cases h
  · next t ht =>
    split at h
    · next ls hls =>
      split at h
      · cases h
        rw [ht, PlainLine.map_pair_of_mapM hls]
      · cases h
    · cases h

theorem plainEditor_readsBack : plainEditor.ReadsBack where
  empty := readTable_lines [] List.nodup_nil
  parse h := by
    rw [plainEditor_parse h]
    exact PlainDoc.readTable_text _
  set {d t k v} ht hk hv := by
    have hd : t = d.lines.map PlainLine.pair := by
      have hread : readTable (plainEditor.dump d) = _ := PlainDoc.readTable_text d
      rw [ht] at hread
      exact Except.ok.inj hread
    obtain ⟨l, hl⟩ := Option.isSome_iff_exists.1 (PlainLine.of?_isSome hk hv)
    have hpair := PlainLine.pair_of? hl
    simp only [PlainLine.pair, Prod.mk.injEq] at hpair
    refine ⟨d.set l, (d.set l).lines.map PlainLine.pair, by simp [plainEditor, hl],
      PlainDoc.readTable_text _, ?_⟩
    rw [PlainDoc.map_pair_set, hd, hpair.1, hpair.2]
    exact Table.SameEntries.refl _

end ImageCatalog.Toml

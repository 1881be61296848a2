import ImageCatalog.Proofs.Text.Integers
import ImageCatalog.Proofs.Config.Saving
import ImageCatalog.Workload
import ImageCatalog.Network

/-!
# Where integers are read

Three readers take integer literals (`Text.IsIntegerLiteral`): the power state
of a machine comes from the literal of its status code, a network connection
is picked by the literal of its index, and a variable of the environment
overrides a setting that holds an integer by the literal it is set to.

`Settings.Rejects s env f raw` says that overriding `f` fails: `f` holds an
integer in `s`, and its variable is set to the text `raw`, which is no literal.

Main results:

* `VmState.ofStatus_literal` and `VmState.ofStatus_not_literal`: a status that
  is a literal gives the state the table lists for its code, and `pending` for
  a code the table leaves out; any other status gives `pending`.
* `Settings.applyEnvironment_first_rejected`: the overrides stop at the first
  setting, in field order, whose override fails, with a message naming its
  variable and the variable's text.
* `integers_read_as_literals`: the three readers together.
-/

namespace ImageCatalog

open ImageCatalog.Text

/-! ## Statuses and indexes -/

/-- An index is read from a text that is a literal, as the literal's value. -/
theorem integerOf_eq_some_iff (value : Option String) (k : Int) :
    integerOf value = some k ↔ ∃ s, value = some s ∧ IsIntegerLiteral s k := by
  simp [integerOf, Option.bind_eq_some_iff, parseInteger?_eq_some_iff]

/-- A status that is a literal gives the state the table lists for its code,
and `pending` for a code the table leaves out. -/
theorem VmState.ofStatus_literal {s : String} {k : Int} (h : IsIntegerLiteral s k) :
    VmState.ofStatus (some s) = (VmState.ofCode? k).getD .pending := by
  simp only [VmState.ofStatus, Option.getD_some, (parseInteger?_eq_some_iff s k).mpr h]

/-- A status that is no literal gives `pending`. -/
theorem VmState.ofStatus_not_literal {s : String} (h : ∀ k, ¬ IsIntegerLiteral s k) :
    VmState.ofStatus (some s) = .pending := by
  simp only [VmState.ofStatus, Option.getD_some, (parseInteger?_eq_none_iff s).mpr h]

namespace Config.Settings

/-! ## Overrides from the environment -/

variable {env : List (String × String)}

/-- Overriding `f` fails: `f` holds an integer, and its variable is set to the
text `raw`, which is no integer literal. -/
def Rejects (s : Settings) (env : List (String × String)) (f : Field) (raw : String) : Prop :=
  (∃ n, s.get f = .int n) ∧ (∃ name, env.find? (·.1 == f.envName) = some (name, raw)) ∧
    ∀ k, ¬ IsIntegerLiteral raw k

/-- Whether an override fails depends on the setting's own value only. -/
theorem rejects_congr {s t : Settings} {f : Field} {raw : String} (h : t.get f = s.get f) :
    t.Rejects env f raw ↔ s.Rejects env f raw := by
  rw [Rejects, Rejects, h]

/-- A failing override stops with a message naming the variable and its text. -/
theorem applyOverride_rejects {s : Settings} {f : Field} {raw : String} (h : s.Rejects env f raw) :
    applyOverride env s f = .error (.config ("Invalid value for " ++ f.envName ++ ": " ++ raw)) := by
  obtain ⟨⟨n, hn⟩, ⟨name, hfind⟩, hraw⟩ := h
  have hparse : parseInteger? raw = none := (parseInteger?_eq_none_iff raw).mpr hraw
  simp only [applyOverride, hfind, hn, readOverride, hparse]
  rfl

/-- An override that does not fail changes its own setting and no other. -/
theorem applyOverride_accepts {s : Settings} {f : Field} (h : ∀ raw, ¬ s.Rejects env f raw) :
    ∃ t, applyOverride env s f = .ok t ∧ ∀ g, g ≠ f → t.get g = s.get g := by
  unfold applyOverride
  split
  · next name raw hfind =>
    -- the variable is read by the kind of the current value; an integer reads
    have hread : ∃ v, readOverride f (s.get f) raw = .ok v := by
      unfold readOverride
      split
      · exact ⟨_, rfl⟩
      · next n hn =>
        cases hk : parseInteger? raw with
        | some k => exact ⟨.int k, rfl⟩
        | none =>
          exact absurd ⟨⟨n, hn⟩, ⟨name, hfind⟩, (parseInteger?_eq_none_iff raw).mp hk⟩ (h raw)
      · exact ⟨_, rfl⟩
    obtain ⟨v, hv⟩ := hread
    refine ⟨s.set f v, by simp only [hv]; rfl, fun g hg => ?_⟩
    simp [hg]
  · exact ⟨s, rfl, fun _ _ => rfl⟩

/-- Overrides applied field by field, from settings that agree with `s` on the
fields still to come, stop at the first field whose override fails. -/
theorem foldlM_applyOverride_rejects {s : Settings} {f : Field} {raw : String}
    (hf : s.Rejects env f raw) (post : List Field) :
    ∀ (pre : List Field) (acc : Settings), (pre ++ f :: post).Nodup →
      (∀ g ∈ pre ++ [f], acc.get g = s.get g) → (∀ g ∈ pre, ∀ r, ¬ s.Rejects env g r) →
      (pre ++ f :: post).foldlM (applyOverride env) acc =
        .error (.config ("Invalid value for " ++ f.envName ++ ": " ++ raw)) := by
  intro pre
  induction pre with
  | nil =>
    intro acc _ hagree _
    have hacc : acc.Rejects env f raw := (rejects_congr (hagree f (by simp))).mpr hf
    rw [List.nil_append, List.foldlM_cons, applyOverride_rejects hacc]
    rfl
  | cons g pre ih =>
    intro acc hnd hagree hpre
    -- the earlier field is overridden without failing, and the rest still agree with `s`
    have hg : ∀ r, ¬ acc.Rejects env g r := fun r hr =>
      hpre g (by simp) r ((rejects_congr (hagree g (by simp))).mp hr)
    obtain ⟨t, ht, hframe⟩ := applyOverride_accepts hg
    rw [List.cons_append, List.nodup_cons] at hnd
    have hnotin : g ∉ pre ++ [f] := by
      intro hmem
      apply hnd.1
      simp only [List.mem_append, List.mem_cons] at hmem ⊢
      tauto
    have hagree' : ∀ h ∈ pre ++ [f], t.get h = s.get h := fun h hh => by
      rw [hframe h (fun heq => hnotin (heq ▸ hh)), hagree h (by simp_all)]
    rw [List.cons_append, List.foldlM_cons, ht]
    exact ih t hnd.2 hagree' fun h hh => hpre h (by simp [hh])

/-- The overrides stop at the first field, in field order, whose override
fails, with a message naming its variable and the variable's text. -/
theorem applyEnvironment_first_rejected {s : Settings} {pre post : List Field} {f : Field}
    {raw : String} (hsplit : Field.all = pre ++ f :: post)
    (hpre : ∀ g ∈ pre, ∀ r, ¬ s.Rejects env g r) (hf : s.Rejects env f raw) :
    s.applyEnvironment env = .error (.config ("Invalid value for " ++ f.envName ++ ": " ++ raw)) := by
  rw [applyEnvironment, hsplit]
  exact foldlM_applyOverride_rejects hf post pre s (hsplit ▸ Field.all_nodup) (fun _ _ => rfl) hpre

/-- Where some override fails, a first one does: no field before it fails, and
the given one is it or comes after it. -/
theorem exists_first_rejected {s : Settings} {f : Field} {raw : String} (hf : s.Rejects env f raw) :
    ∃ pre g post raw', Field.all = pre ++ g :: post ∧ f ∈ g :: post ∧
      (∀ h ∈ pre, ∀ r, ¬ s.Rejects env h r) ∧ s.Rejects env g raw' := by
  classical
  have hsome : (Field.all.find? fun g => decide (∃ r, s.Rejects env g r)).isSome := by
    rw [List.find?_isSome]
    exact ⟨f, Field.mem_all f, decide_eq_true ⟨raw, hf⟩⟩
  obtain ⟨g, hg⟩ := Option.isSome_iff_exists.mp hsome
  obtain ⟨hgr, pre, post, hsplit, hpre⟩ := List.find?_eq_some_iff_append.mp hg
  obtain ⟨raw', hraw'⟩ := of_decide_eq_true hgr
  have hfirst : ∀ h ∈ pre, ∀ r, ¬ s.Rejects env h r := fun h hh r hr => by
    have hnot := hpre h hh
    simp only [Bool.not_eq_true', decide_eq_false_iff_not, not_exists] at hnot
    exact hnot r hr
  -- the given field fails, so it is not among those before the first
  have hf_mem : f ∈ g :: post := by
    have hall : f ∈ pre ++ g :: post := hsplit ▸ Field.mem_all f
    rcases List.mem_append.mp hall with hpre' | hpost
    · exact absurd hf (hfirst f hpre' raw)
    · exact hpost
  exact ⟨pre, g, post, raw', hsplit, hf_mem, hfirst, hraw'⟩

end Config.Settings

/-! ## The three readers -/

/-- Integers as the library reads them. A text reads as an integer exactly when
it is a literal, of the value its digits spell in base ten under its sign; a
connection index is read the same way; a machine's status gives the state the
table lists for its literal's code, and `pending` when the table leaves the
code out, when the status is no literal and when there is no status; and an
integer setting overridden by a variable that is no literal makes the
overrides fail, naming the first such variable in field order, which is the
given one or comes before it. -/
theorem integers_read_as_literals :
    (∀ s k, parseInteger? s = some k ↔ IsIntegerLiteral s k) ∧
    (∀ value k, integerOf value = some k ↔ ∃ s, value = some s ∧ IsIntegerLiteral s k) ∧
    (∀ s k, IsIntegerLiteral s k → VmState.ofStatus (some s) = (VmState.ofCode? k).getD .pending) ∧
    (∀ s, (∀ k, ¬ IsIntegerLiteral s k) → VmState.ofStatus (some s) = .pending) ∧
    VmState.ofStatus none = .pending ∧
    (∀ (cfg : Config.Settings) env f raw, cfg.Rejects env f raw →
      ∃ pre g post raw', Config.Field.all = pre ++ g :: post ∧ f ∈ g :: post ∧
        (∀ h ∈ pre, ∀ r, ¬ cfg.Rejects env h r) ∧ cfg.Rejects env g raw' ∧
        cfg.applyEnvironment env =
          .error (.config ("Invalid value for " ++ g.envName ++ ": " ++ raw'))) := by
  refine ⟨parseInteger?_eq_some_iff, integerOf_eq_some_iff, fun _ _ => VmState.ofStatus_literal,
    fun _ => VmState.ofStatus_not_literal, rfl, ?_⟩
  intro cfg env f raw hf
  obtain ⟨pre, g, post, raw', hsplit, hmem, hfirst, hg⟩ := Config.Settings.exists_first_rejected hf
  exact ⟨pre, g, post, raw', hsplit, hmem, hfirst, hg,
    Config.Settings.applyEnvironment_first_rejected hsplit hfirst hg⟩

/-- The readers at work: `0_4` signed and after an ideographic space is the
code of a running machine, and `4.0` set for the catalog lifetime stops the
overrides of the default settings, naming that variable. -/
theorem integers_read_as_literals_samples :
    VmState.ofStatus (some "\u3000+0_4") = .running ∧
      ∃ pre g post raw', Config.Field.all = pre ++ g :: post ∧
        Config.Field.catalogTtlMinutes ∈ g :: post ∧
        (∀ h ∈ pre, ∀ r, ¬ ({} : Config.Settings).Rejects
          [(Config.Field.catalogTtlMinutes.envName, "4.0")] h r) ∧
        ({} : Config.Settings).Rejects [(Config.Field.catalogTtlMinutes.envName, "4.0")] g raw' ∧
        ({} : Config.Settings).applyEnvironment [(Config.Field.catalogTtlMinutes.envName, "4.0")] =
          .error (.config ("Invalid value for " ++ g.envName ++ ": " ++ raw')) := by
  have hlit : IsIntegerLiteral "\u3000+0_4" 4 := by decide
  have hrej : ({} : Config.Settings).Rejects [(Config.Field.catalogTtlMinutes.envName, "4.0")]
      .catalogTtlMinutes "4.0" :=
    ⟨⟨30, rfl⟩, ⟨Config.Field.catalogTtlMinutes.envName, by simp⟩,
      (parseInteger?_eq_none_iff "4.0").mp (by decide)⟩
  exact ⟨integers_read_as_literals.2.2.1 _ 4 hlit,
    integers_read_as_literals.2.2.2.2.2 {} _ .catalogTtlMinutes "4.0" hrej⟩

/-- Four thousand three hundred zeros and a `4` are a numeral of value 4, the
code of a running machine, yet the status reads as `pending`: the numeral has
one digit more than a literal may have. -/
theorem ofStatus_overlong_numeral_pending :
    Numeral (List.replicate 4300 '0' ++ ['4']) (List.replicate 4300 0 ++ [4]) ∧
      Nat.ofDigits 10 (List.replicate 4300 0 ++ [4]).reverse = 4 ∧
      VmState.ofCode? 4 = some .running ∧
      VmState.ofStatus (some (String.ofList (List.replicate 4300 '0' ++ ['4']))) = .pending := by
  have hfour : digitValue? '4' = some 4 := rfl
  have hnum := Numeral.zeros_append hfour 4300
  have hvalue : Nat.ofDigits 10 (List.replicate 4300 0 ++ [4]).reverse = 4 := by
    rw [List.reverse_append, List.reverse_singleton, List.singleton_append, List.reverse_replicate,
      Nat.ofDigits_cons, Nat.ofDigits_replicate_zero]
  have hlong : ¬ (List.replicate 4300 0 ++ [4]).length ≤ maxDigits := by
    rw [List.length_append, List.length_replicate, List.length_singleton, maxDigits]
    omega
  refine ⟨hnum, hvalue, rfl, ?_⟩
  rw [VmState.ofStatus, Option.getD_some, parseInteger?_numeral hnum, if_neg hlong]

end ImageCatalog

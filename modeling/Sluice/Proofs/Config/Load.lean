import Sluice.Config.File
import Sluice.Proofs.Config.Read
import Sluice.Proofs.Config.Rendered
import Mathlib

/-!
# How loading ends

Once the text of a file has been read as YAML, loading ends in a configuration that has passed every
check or in a refusal of the configuration, for every value that the text may hold. There are two
exceptions, which follow from the value alone (`Config.Escapes`): the first expression that stands
for nothing fails outside of what templates answer for, or all stand for something and some key of
the mapping is no text.

* `Config.ofEntries_escapes`: the exceptions are failures from outside;
* `Config.ofEntries_ends`: **everything else ends in a checked configuration or in a refusal**;
* `Config.load_ends`: **how loading ends**, for every file that holds a value.
-/

namespace Sluice.Config

open Template

/-! ## 1. Names of settings -/

/-- Some setting is not named if and only if some key is no text. -/
theorem namesOnly_eq_false {es : List (Value × Value)} :
    namesOnly es = false ↔ ∃ key ∈ es.map (·.1), ∀ name, key ≠ .text name := by
  unfold namesOnly
  rw [List.all_eq_false]
  constructor
  · rintro ⟨⟨key, v⟩, hmem, hkey⟩
    refine ⟨key, List.mem_map_of_mem hmem, fun name hname => ?_⟩
    subst hname
    exact hkey rfl
  · rintro ⟨key, hmem, hkey⟩
    obtain ⟨⟨key, v⟩, he, rfl⟩ := List.mem_map.mp hmem
    refine ⟨(key, v), he, ?_⟩
    cases key with
    | text name => exact absurd rfl (hkey name)
    | _ => exact Bool.false_ne_true

/-- Rendering changes nothing about the names of settings. -/
theorem namesOnly_rendered {scope : Scope} {es rendered : List (Value × Value)}
    (h : render.renderEntries scope es = .ok rendered) :
    namesOnly rendered = false ↔ namesOnly es = false := by
  rw [namesOnly_eq_false, namesOnly_eq_false, renderEntries_keys h]

theorem read_eq_unnamed {es : List (Value × Value)} :
    read es = .error .unnamed ↔ namesOnly es = false := by
  unfold read
  cases namesOnly es with
  | false => exact ⟨fun _ => rfl, fun _ => rfl⟩
  | true =>
    refine ⟨fun h => ?_, fun h => by cases h⟩
    cases hmembers : readMembers es <;> rw [hmembers] at h <;> cases h

/-! ## 2. Mappings -/

/-- **Where loading a value ends otherwise than in a configuration or in its refusal**, and how. -/
inductive Escapes (environment vars : List (Text × Text)) : Value → Failure → Prop where
  | stopped {es : List (Value × Value)} {before after : List Text} {t : Text} {fault : Fault}
      (hes : expressions (.mapping es) = before ++ t :: after)
      (hbefore : ∀ u ∈ before, Stands (scopeOf (.mapping es) environment vars) u)
      (ht : FailsOutside (scopeOf (.mapping es) environment vars) t fault) :
      Escapes environment vars (.mapping es) fault.failure
  | unnamed {es : List (Value × Value)} {key v : Value}
      (hes : ∀ t ∈ expressions (.mapping es),
        Stands (scopeOf (.mapping es) environment vars) t)
      (hkey : (key, v) ∈ es) (hnot : ∀ name, key ≠ .text name) :
      Escapes environment vars (.mapping es) unnamedFailure

section Mappings

variable {environment vars : List (Text × Text)} {path : Text} {es : List (Value × Value)}

/-- Nothing escapes from a value that is no mapping. -/
theorem Escapes.mapping {v : Value} {failure : Failure} (h : Escapes environment vars v failure) :
    ∃ es, v = .mapping es := by
  cases h <;> exact ⟨_, rfl⟩

/-- What escapes is a failure from outside. -/
theorem Escapes.kind {v : Value} {failure : Failure} (h : Escapes environment vars v failure) :
    failure.kind ≠ .configuration := by
  cases h with
  | stopped _ _ ht => exact (evaluate_outside.mpr ht).2
  | unnamed => exact fun h => by cases h

/-- What escapes ends the loading of a mapping. -/
theorem ofEntries_escapes {failure : Failure}
    (h : Escapes environment vars (.mapping es) failure) :
    ofEntries environment vars path es = .error { failure } := by
  unfold ofEntries
  cases h with
  | stopped hes hbefore ht =>
    have hfirst := firstFault?_eq_some.mpr ⟨_, _, _, hes, hbefore, (evaluate_outside.mpr ht).1⟩
    rw [fault?_eq_some.mp ((fault?_renderEntries es).trans hfirst)]
  | unnamed hes hkey hnot =>
    have hnone := firstFault?_eq_none.mpr hes
    obtain ⟨rendered, hrendered⟩ := fault?_eq_none.mp ((fault?_renderEntries es).trans hnone)
    have hnames := namesOnly_eq_false.mpr ⟨_, List.mem_map_of_mem hkey, hnot⟩
    rw [hrendered]
    dsimp only
    unfold ofRendered
    rw [read_eq_unnamed.mpr ((namesOnly_rendered hrendered).mpr hnames)]

/-- **A mapping from which nothing escapes ends in a configuration that has passed every check, or
in its refusal.** -/
theorem ofEntries_ends (h : ∀ failure, ¬ Escapes environment vars (.mapping es) failure) :
    (∃ c, ofEntries environment vars path es = .ok c ∧ c.IsChecked) ∨
      ∃ f, ofEntries environment vars path es = .error f ∧ f.failure.kind = .configuration := by
  unfold ofEntries
  cases hrendered : render.renderEntries (scopeOf (.mapping es) environment vars) es with
  | error fault =>
    have hfirst := (fault?_renderEntries es).symm.trans (fault?_eq_some.mpr hrendered)
    obtain ⟨before, t, after, hes, hbefore, ht⟩ := firstFault?_eq_some.mp hfirst
    by_cases hkind : fault.kind = .configuration
    · exact .inr ⟨_, rfl, hkind⟩
    · exact absurd (.stopped hes hbefore (evaluate_outside.mp ⟨ht, hkind⟩)) (h fault.failure)
  | ok rendered =>
    have hstand := firstFault?_eq_none.mp
      ((fault?_renderEntries es).symm.trans (fault?_eq_none.mpr ⟨rendered, hrendered⟩))
    dsimp only
    unfold ofRendered
    cases hread : read rendered with
    | ok c => exact .inl ⟨c, rfl, read_isChecked hread⟩
    | error refusal =>
      cases refusal with
      | issues is => exact .inr ⟨_, rfl, rfl⟩
      | unnamed =>
        have hnames := (namesOnly_rendered hrendered).mp (read_eq_unnamed.mp hread)
        obtain ⟨key, hmem, hnot⟩ := namesOnly_eq_false.mp hnames
        obtain ⟨⟨key, v⟩, hkey, rfl⟩ := List.mem_map.mp hmem
        exact absurd (.unnamed hstand hkey hnot) (h unnamedFailure)

end Mappings

/-! ## 3. Files -/

section Files

variable {folder : Folder} {environment vars : List (Text × Text)} {path : Text}

/-- A file that holds a mapping is loaded from its entries. -/
theorem load_mapping {cs : List Char} {es : List (Value × Value)}
    (htext : folder.text? path = .ok (some cs)) (hvalue : Yaml.read cs = .ok (.mapping es)) :
    load folder environment vars path = ofEntries environment vars path es := by
  unfold load mappingOf
  rw [htext]
  dsimp only
  rw [hvalue]
  rfl

/-- A file that holds any other value is refused. -/
theorem load_other {cs : List Char} {v : Value} (htext : folder.text? path = .ok (some cs))
    (hvalue : Yaml.read cs = .ok v) (hother : ∀ es, v ≠ .mapping es) :
    load folder environment vars path =
      .error (fileFailure path "Config file must contain a YAML dictionary") := by
  unfold load mappingOf
  rw [htext]
  dsimp only
  rw [hvalue]
  cases v with
  | mapping es => exact absurd rfl (hother es)
  | _ => rfl

/-- **How loading ends.** For every file whose text holds a value, every environment and all
variables: unless the first expression that stands for nothing fails outside of what templates
answer for, or all stand for something and a key is no text, loading ends in a configuration that
has passed every check or in the refusal of the configuration. In these two cases it ends in a
failure from outside. -/
theorem load_ends {cs : List Char} {v : Value} (htext : folder.text? path = .ok (some cs))
    (hvalue : Yaml.read cs = .ok v) :
    ((∀ failure, ¬ Escapes environment vars v failure) →
      (∃ c, load folder environment vars path = .ok c ∧ c.IsChecked) ∨
        ∃ f, load folder environment vars path = .error f ∧ f.failure.kind = .configuration) ∧
      ∀ failure, Escapes environment vars v failure →
        load folder environment vars path = .error { failure } ∧
          failure.kind ≠ .configuration := by
  constructor
  · intro h
    cases v with
    | mapping es =>
      rw [load_mapping htext hvalue]
      exact ofEntries_ends h
    | _ => exact .inr ⟨_, load_other htext hvalue fun es hes => (by cases hes), rfl⟩
  · intro failure h
    obtain ⟨es, rfl⟩ := h.mapping
    rw [load_mapping htext hvalue]
    exact ⟨ofEntries_escapes h, h.kind⟩

/-- A file with a whole number for a key: no refusal, but a failure from outside. -/
theorem load_ends_unnamed :
    let folder : Folder := ⟨[("sink.yaml", "1: x\n".toList.map fun c => c.toNat.toUInt8)]⟩
    Escapes [] [] (.mapping [(.int 1, .text "x")]) unnamedFailure ∧
      load folder [] [] "sink.yaml" = .error { failure := unnamedFailure } ∧
        unnamedFailure.kind ≠ .configuration := by
  intro folder
  have htext : folder.text? "sink.yaml" = .ok (some "1: x\n".toList) := by cbv
  have hvalue : Yaml.read "1: x\n".toList = .ok (.mapping [(.int 1, .text "x")]) := by cbv
  have hescapes : Escapes [] [] (.mapping [(.int 1, .text "x")]) unnamedFailure := by
    refine .unnamed ?_ (List.mem_singleton_self _) fun name h => by cases h
    intro t ht
    have hnone : expressions (.mapping [(.int 1, .text "x")]) = [] := by cbv
    rw [hnone] at ht
    cases ht
  exact ⟨hescapes, (load_ends htext hvalue).2 _ hescapes⟩

end Files

end Sluice.Config

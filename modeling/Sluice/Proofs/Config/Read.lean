import Sluice.Config.Reader
import Sluice.Proofs.Check.Success
import Sluice.Proofs.Schema.Read
import Sluice.Record.Transformer

/-!
# Configurations that have been read

Reading refuses every configuration that a run could not be set up with: its batches hold at least
one operation and one byte, at least one worker writes, and its key columns are columns of the
schema (`Config.IsValid`). Beyond that the schema is well-formed, the key columns are distinct, and
nothing is amiss with repetitions and store (`Config.IsChecked`).

* `Config.readMembers_readFrom`: each part of a configuration comes from its own check;
* `Config.read_isValid`: **a configuration that has been read is valid**;
* `Config.IsValid.make`: a valid configuration always yields a transformer;
* `Config.read_isChecked`: **a configuration that has been read has passed every check**.
-/

namespace Sluice

/-! ## 1. Bounds, repetitions and stores -/

/-- Batches may hold something. -/
structure Bounds.IsPositive (b : Bounds) : Prop where
  operations : 0 < b.maxOperations
  bytes : 0 < b.maxBytes

theorem Bounds.read_isPositive {v : Value} {b : Bounds} (h : read v = .ok b) : b.IsPositive := by
  obtain ⟨es, -, hread⟩ := bind_ok h
  obtain ⟨f, bytes, hf, hbytes, rfl⟩ := Checked.feed_ok.mp hread
  obtain ⟨g, operations, hg, hoperations, rfl⟩ := Checked.feed_ok.mp hf
  cases hg
  exact ⟨Check.optional_integerAbove (by decide) hoperations,
    Check.optional_integerAbove (by decide) hbytes⟩

/-- No delay is negative, delays do not shrink, and an attempt has time. -/
structure RetryPolicy.IsUsable (p : RetryPolicy) : Prop where
  delay : (Binary64.ofInt 0).le p.delay = true
  rate : (Binary64.ofInt 1).le p.rate = true
  maxDelay : (Binary64.ofInt 0).le p.maxDelay = true
  timeout : ∀ x, p.timeout? = some x → (Binary64.ofInt 0).lt x = true

theorem RetryPolicy.standard_isUsable : standard.IsUsable := by
  refine ⟨by decide +kernel, by decide +kernel, by decide +kernel, fun x hx => ?_⟩
  have hminute : Binary64.ofInt 60 = x := Option.some.inj hx
  rw [← hminute]
  decide +kernel

theorem RetryPolicy.read_isUsable {v : Value} {p : RetryPolicy} (h : read v = .ok p) :
    p.IsUsable := by
  obtain ⟨es, -, hread⟩ := bind_ok h
  obtain ⟨f₁, timeout?, hf₁, htimeout, rfl⟩ := Checked.feed_ok.mp hread
  obtain ⟨f₂, maxDelay, hf₂, hmaxDelay, rfl⟩ := Checked.feed_ok.mp hf₁
  obtain ⟨f₃, rate, hf₃, hrate, rfl⟩ := Checked.feed_ok.mp hf₂
  obtain ⟨f₄, delay, hf₄, hdelay, rfl⟩ := Checked.feed_ok.mp hf₃
  obtain ⟨f₅, retries, hf₅, -, rfl⟩ := Checked.feed_ok.mp hf₄
  cases hf₅
  have hstandard := standard_isUsable
  refine ⟨Check.optional_numberFrom hstandard.delay hdelay,
    Check.optional_numberFrom hstandard.rate hrate,
    Check.optional_numberFrom hstandard.maxDelay hmaxDelay, fun x hx => ?_⟩
  have hsome : timeout? = some x := hx
  rcases Check.optional_ok htimeout with hdefault | ⟨w, hw⟩
  · exact hstandard.timeout x (hdefault ▸ hsome)
  · rcases Check.nullable_ok hw with hnone | ⟨y, hy, hgiven⟩
    · cases hnone.symm.trans hsome
    · cases hgiven.symm.trans hsome
      exact Check.numberAbove_ok hy

/-- A store that has been read lacks nothing that its kind needs. -/
theorem StoreSettings.read_lacking {v : Value} {s : StoreSettings} (h : read v = .ok s) :
    s.lacking = [] := by
  obtain ⟨es, -, hread⟩ := bind_ok h
  obtain ⟨-, hlacking⟩ := Checked.ensure_ok.mp hread
  split at hlacking
  · next hempty => exact List.isEmpty_iff.mp hempty
  · cases hlacking

/-! ## 2. Configurations -/

namespace Config

/-- **A configuration that a run can be set up with.** -/
structure IsValid (c : Config) : Prop where
  bounds : c.bounds.IsPositive
  workers : 0 < c.workers
  keys : Transformer.unknownKeys c.schema c.keyColumns = []

/-- What ties key columns and schema together is in order: the schema has all key columns. -/
theorem unknownKeys_of_keyFault? {c : Config} (h : c.keyFault? = none) :
    Transformer.unknownKeys c.schema c.keyColumns = [] := by
  unfold keyFault? at h
  split at h
  · cases h
  · dsimp only at h
    split at h
    · next hempty => exact List.isEmpty_iff.mp hempty
    · cases h

/-- **Each part of a configuration comes from its own check**, and the parts fit together. -/
structure ReadFrom (es : List (Value × Value)) (c : Config) : Prop where
  name : Check.required "name" Check.text es = .ok c.name
  table : Check.required "table" Check.text es = .ok c.table
  keyColumns : Check.required "key_columns" readKeys es = .ok c.keyColumns
  verb : Check.optional "operation" .insert (Check.choice (Verb.all.map fun v => (v.word, v))) es =
    .ok c.verb
  schema : schemaMember es = .ok c.schema
  bounds : Check.optional "batching" Bounds.standard Bounds.read es = .ok c.bounds
  retry : Check.optional "retry" RetryPolicy.standard RetryPolicy.read es = .ok c.retry
  store : Check.optional "store" StoreSettings.standard StoreSettings.read es = .ok c.store
  workers : ∃ n : Int, Check.optional "parallelism" 1 (Check.integerFrom 1) es = .ok n ∧
    c.workers = n.toNat
  onRecordError : Check.optional "on_record_error" .skip
    (Check.word [("skip", RecordRule.skip), ("fail", .fail)]) es = .ok c.onRecordError
  onBatchFailure : Check.optional "on_batch_failure" .fail
    (Check.word [("fail", BatchRule.fail), ("continue", .proceed)]) es = .ok c.onBatchFailure
  tied : c.keyFault? = none

theorem readMembers_readFrom {es : List (Value × Value)} {c : Config}
    (h : readMembers es = .ok c) : c.ReadFrom es := by
  obtain ⟨hread, hkeys⟩ := Checked.ensure_ok.mp h
  -- the parts from the last one to the first
  obtain ⟨f₁, onBatch, hf₁, honBatch, rfl⟩ := Checked.feed_ok.mp hread
  obtain ⟨f₂, onRecord, hf₂, honRecord, rfl⟩ := Checked.feed_ok.mp hf₁
  obtain ⟨f₃, workers, hf₃, hworkers, rfl⟩ := Checked.feed_ok.mp hf₂
  obtain ⟨f₄, store, hf₄, hstore, rfl⟩ := Checked.feed_ok.mp hf₃
  obtain ⟨f₅, retry, hf₅, hretry, rfl⟩ := Checked.feed_ok.mp hf₄
  obtain ⟨f₆, bounds, hf₆, hbounds, rfl⟩ := Checked.feed_ok.mp hf₅
  obtain ⟨f₇, schema, hf₇, hschema, rfl⟩ := Checked.feed_ok.mp hf₆
  obtain ⟨f₈, verb, hf₈, hverb, rfl⟩ := Checked.feed_ok.mp hf₇
  obtain ⟨f₉, keys, hf₉, hkeyColumns, rfl⟩ := Checked.feed_ok.mp hf₈
  obtain ⟨f₁₀, table, hf₁₀, htable, rfl⟩ := Checked.feed_ok.mp hf₉
  obtain ⟨f₁₁, name, hf₁₁, hname, rfl⟩ := Checked.feed_ok.mp hf₁₀
  cases hf₁₁
  exact ⟨hname, htable, hkeyColumns, hverb, hschema, hbounds, hretry, hstore,
    ⟨workers, hworkers, rfl⟩, honRecord, honBatch, hkeys⟩

theorem ReadFrom.isValid {es : List (Value × Value)} {c : Config} (h : c.ReadFrom es) :
    c.IsValid := by
  refine ⟨?_, ?_, unknownKeys_of_keyFault? h.tied⟩
  · rcases Check.optional_ok h.bounds with hstandard | ⟨v, hv⟩
    · rw [hstandard]
      exact ⟨by decide, by decide⟩
    · exact Bounds.read_isPositive hv
  · obtain ⟨n, hn, hworkers⟩ := h.workers
    rw [hworkers]
    exact Check.optional_integerFrom (by decide) hn

/-- A configuration that has been read comes from the checks of its parts; all keys are texts. -/
theorem read_ok {es : List (Value × Value)} {c : Config} (h : read es = .ok c) :
    namesOnly es = true ∧ readMembers es = .ok c := by
  unfold read at h
  split at h
  · cases h
  · next hnames =>
    split at h
    · next c' hread =>
      cases h
      exact ⟨by simpa using hnames, hread⟩
    · cases h

/-- **A configuration that has been read is valid.** -/
theorem read_isValid {es : List (Value × Value)} {c : Config} (h : read es = .ok c) :
    c.IsValid :=
  (readMembers_readFrom (read_ok h).2).isValid

/-- A valid configuration always yields a transformer. -/
theorem IsValid.make {c : Config} (h : c.IsValid) :
    Transformer.make c.table c.schema c.keyColumns c.verb =
      .ok ⟨c.table, c.schema, c.keyColumns, c.verb⟩ := by
  unfold Transformer.make
  rw [h.keys]

/-! ## 3. Everything that is checked -/

/-- **A configuration that has passed every check.** -/
structure IsChecked (c : Config) : Prop extends c.IsValid where
  keyed : c.keyColumns ≠ []
  distinct : c.keyColumns.Nodup
  schema : c.schema.isWellFormed = true
  retry : c.retry.IsUsable
  store : c.store.lacking = []

theorem readKeys_ne_nil {v : Value} {names : List Text} (h : readKeys v = .ok names) :
    names ≠ [] := by
  unfold readKeys at h
  split at h
  · cases h
  · obtain ⟨-, hempty⟩ := Checked.ensure_ok.mp h
    rintro rfl
    cases hempty

theorem readSchema_isWellFormed {v : Value} {s : Schema} (h : readSchema v = .ok s) :
    s.isWellFormed = true := by
  unfold readSchema at h
  split at h
  · exact Schema.readColumns_isWellFormed h
  · exact Schema.read_isWellFormed h

theorem schemaMember_isWellFormed {es : List (Value × Value)} {s : Schema}
    (h : schemaMember es = .ok s) : s.isWellFormed = true := by
  unfold schemaMember at h
  split at h
  · exact readSchema_isWellFormed (Checked.under_ok.mp h)
  · obtain ⟨v, hv⟩ := Check.required_ok h
    exact readSchema_isWellFormed hv

/-- What ties key columns and schema together is in order: no key column is named twice. -/
theorem nodup_of_keyFault? {c : Config} (h : c.keyFault? = none) : c.keyColumns.Nodup := by
  unfold keyFault? at h
  split at h
  · cases h
  · next hnone => exact firstRepeated?_eq_none.mp (by simpa using hnone)

theorem ReadFrom.isChecked {es : List (Value × Value)} {c : Config} (h : c.ReadFrom es) :
    c.IsChecked := by
  refine { h.isValid with
    keyed := ?_, distinct := nodup_of_keyFault? h.tied,
    schema := schemaMember_isWellFormed h.schema, retry := ?_, store := ?_ }
  · obtain ⟨v, hv⟩ := Check.required_ok h.keyColumns
    exact readKeys_ne_nil hv
  · rcases Check.optional_ok h.retry with hstandard | ⟨v, hv⟩
    · rw [hstandard]
      exact RetryPolicy.standard_isUsable
    · exact RetryPolicy.read_isUsable hv
  · rcases Check.optional_ok h.store with hstandard | ⟨v, hv⟩
    · rw [hstandard]
      rfl
    · exact StoreSettings.read_lacking hv

/-- **A configuration that has been read has passed every check.** -/
theorem read_isChecked {es : List (Value × Value)} {c : Config} (h : read es = .ok c) :
    c.IsChecked :=
  (readMembers_readFrom (read_ok h).2).isChecked

end Config

end Sluice

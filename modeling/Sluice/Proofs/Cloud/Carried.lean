import Sluice.Proofs.Cloud.Keys

/-!
# What a transaction carries

A group of operations is one transaction of the client, which has the mutations handed over as often
as it likes and ends it well or fails. However often it asks, it is handed the same: one mutation
for each operation, in order, from which the operation's columns can be read back value by value.
And whatever it fails with is reported by its kind.

* `decoded?`, `Packed.decoded_encoded`: **what has been encoded is decoded again**, nulls and all;
* `Mutation.StandsFor`: a mutation tells the table, the columns and the values of an operation, or
  the key of a row to delete;
* `mutation_standsFor`: every operation of a transformer has such a mutation;
* `Database.handOver_all`: **what is handed over for a group**, by induction on it;
* `Reported`: what is reported of a failure, by its kinds;
* `Database.submit_carries`: **a transaction carries its operations, and reports its failure**.
-/

namespace Sluice.Cloud

/-! ## 1. Reading values back -/

/-- A value of a byte column, read back from what has been sent. -/
def decoded? : Value → Option Value
  | .null => some .null
  | .bytes bs => (Base64.decode? (bs.map UInt8.toNat)).map .bytes
  | .list xs => (decodedItems? xs).map .list
  | _ => none
where
  /-- Items, read back. -/
  decodedItems? : List Value → Option (List Value)
    | [] => some []
    | x :: rest =>
      match decoded? x, decodedItems? rest with
      | some y, some ys => some (y :: ys)
      | _, _ => none

theorem decodedItems_encoded : ∀ {xs ys : List Value},
    (∀ x ∈ xs, ∀ {y}, encoded x = .ok y → decoded? y = some x) →
      encoded.encodedItems xs = .ok ys → decoded?.decodedItems? ys = some xs
  | [], ys, _, h => by
    cases h
    rfl
  | x :: rest, ys, hitems, h => by
    unfold encoded.encodedItems at h
    obtain ⟨y, hy, h⟩ := bind_ok h
    obtain ⟨ys', hys', h⟩ := bind_ok h
    cases h
    have hfirst := hitems x List.mem_cons_self hy
    have hrest := decodedItems_encoded (fun x' hx' => hitems x' (List.mem_cons_of_mem x hx')) hys'
    simp only [decoded?.decodedItems?, hfirst, hrest]

/-- **What has been encoded is decoded again**: bytes are read back, and nulls are where they
were. -/
theorem Packed.decoded_encoded {v : Value} (h : Packed v) {w : Value} (hw : encoded v = .ok w) :
    decoded? w = some v := by
  induction h generalizing w with
  | null =>
    cases hw
    rfl
  | bytes bs =>
    cases hw
    rw [decoded?, Base64.decode?_encode]
    rfl
  | list _ ih =>
    unfold encoded at hw
    obtain ⟨ys, hys, hw⟩ := map_ok hw
    cases hw
    rw [decoded?, decodedItems_encoded ih hys]
    rfl

/-! ## 2. Mutations for operations -/

/-- What is sent stands for the value of a column: it can be decoded to it in a column of bytes, and
is the value itself in any other one. -/
def Tells (byteColumns : List Text) (name : Text) (v w : Value) : Prop :=
  if name ∈ byteColumns then decoded? w = some v else w = v

/-- **A mutation stands for an operation**: it deletes the row with the operation's key, or writes
in the operation's way, and then it has the operation's columns, in order and with what stands for
their values. -/
inductive Mutation.StandsFor (byteColumns : List Text) (o : Operation) : Mutation → Prop where
  | delete (h : o.verb = .delete) : StandsFor byteColumns o (.delete o.table [o.key])
  | write {values : List Value} (h : o.verb ≠ .delete)
      (hvalues : List.Forall₂ (fun e w => Tells byteColumns e.1 e.2 w) o.columns values) :
      StandsFor byteColumns o (.write o.verb o.table (o.columns.map (·.1)) values)

theorem SentAs.tells {byteColumns : List Text} {name : Text} {v w : Value}
    (h : SentAs byteColumns name v w) (hv : name ∈ byteColumns → Packed v) :
    Tells byteColumns name v w := by
  unfold Tells
  cases h with
  | plain hname => rw [if_neg hname]
  | encoded hname hw =>
    rw [if_pos hname]
    exact (hv hname).decoded_encoded hw

/-- **An operation whose byte columns hold bytes has a mutation that stands for it.** -/
theorem mutation_standsFor {byteColumns : List Text} {o : Operation}
    (h : ∀ e ∈ o.columns, e.1 ∈ byteColumns → Packed e.2) :
    ∃ m, mutation byteColumns o = .ok m ∧ m.StandsFor byteColumns o := by
  by_cases hdelete : o.verb = .delete
  · exact ⟨_, Database.mutation_delete byteColumns hdelete, .delete hdelete⟩
  · obtain ⟨values, hvalues, hsent⟩ := encodedColumns_ok fun e he hbytes =>
      (h e he hbytes).sendable
    have htells : List.Forall₂ (fun e w => Tells byteColumns e.1 e.2 w) o.columns values :=
      (forall₂_mem hsent).imp fun e w ⟨he, _, hw⟩ => hw.tells (h e he)
    exact ⟨_, Database.mutation_write hdelete hvalues, .write hdelete htells⟩

/-! ## 3. What is handed over -/

section Transactions

variable {δ : Type} {c : Client δ}

/-- **One mutation is handed over for each operation**, in order, whatever the client is at. -/
theorem Database.handOver_all {R : Operation → Mutation → Prop} (d : Database δ) :
    ∀ {operations : List Operation},
      (∀ o ∈ operations, ∃ m, mutation (d.bytesOf o.table) o = .ok m ∧ R o m) →
        ∃ ms, List.Forall₂ R operations ms ∧
          ∀ s, d.handOver c operations s = (.ok (), ms.foldl c.buffer s)
  | [], _ => ⟨[], .nil, fun _ => rfl⟩
  | o :: rest, h => by
    obtain ⟨m, hm, hstands⟩ := h o List.mem_cons_self
    obtain ⟨ms, hms, hrest⟩ := handOver_all d fun o' ho' => h o' (List.mem_cons_of_mem o ho')
    refine ⟨m :: ms, .cons hstands hms, fun s => ?_⟩
    have hsends : Database.Sends c { d with client := s } o m := sends_of_mutation hm
    have hstep : d.handOver c (o :: rest) s = d.handOver c rest (c.buffer s m) := by
      unfold handOver
      rw [hsends rest]
    rw [hstep, hrest, List.foldl_cons]

/-! ## 4. What is reported -/

/-- A failure of a transaction that may pass: it is of one of the kinds for that, which the client
knows. -/
def Client.IsPassing (c : Client δ) (s : δ) (f : Failure) : Prop :=
  ∃ name ∈ passingLabels, name ∈ c.knownFailures s ∧ c.isOneOf s f name = true

/-- The context that tells the database. -/
def Address.context (a : Address) : List (Text × Value) :=
  [("database", match a.database? with
    | some name => .text name
    | none => .null)]

/-- **What is reported of a failure**: that it may pass, that the transaction has been refused, of
which no operation is to blame, or the failure itself if it is not one of the service. -/
inductive Reported (c : Client δ) (s : δ) (a : Address) (f : Failure) : Failure → Prop where
  | passing (h : c.IsPassing s f) : Reported c s a f
      { kind := .storeTransient, message := "Spanner commit failed: " ++ f.text
        context := a.context }
  | refused (h : ¬ c.IsPassing s f) (hservice : c.isOneOf s f serviceLabel = true) :
      Reported c s a f
        { kind := .storeRejected, message := "Spanner rejected commit: " ++ f.text
          context := a.context, operation? := none }
  | foreign (h : ¬ c.IsPassing s f) (hservice : c.isOneOf s f serviceLabel = false) :
      Reported c s a f f

/-- All kinds of failures that may pass are kinds of the service's failures. -/
def Client.PassingAreService (c : Client δ) : Prop :=
  ∀ s label, ∀ name ∈ passingLabels, name ∈ c.lineage s label → serviceLabel ∈ c.lineage s label

theorem Client.mayPass_iff {s : δ} {f : Failure} : c.mayPass s f = true ↔ c.IsPassing s f := by
  unfold mayPass IsPassing
  simp

theorem Client.IsPassing.service {s : δ} {f : Failure} (h : c.IsPassing s f)
    (hc : c.PassingAreService) : c.isOneOf s f serviceLabel = true := by
  obtain ⟨name, hname, -, hone⟩ := h
  unfold isOneOf at hone ⊢
  split at hone
  · next label _ =>
    exact List.contains_iff_mem.mpr (hc s label name hname (List.contains_iff_mem.mp hone))
  · cases hone

/-- **Of every failure exactly what its kinds tell is reported.** -/
theorem Database.report_reported (hc : c.PassingAreService) (d : Database δ) (f : Failure) :
    Reported c d.client d.address f (d.report c f) := by
  unfold report
  by_cases hpass : c.IsPassing d.client f
  · have hservice : c.isService d.client f = true := hpass.service hc
    rw [hservice, Client.mayPass_iff.mpr hpass]
    exact .passing hpass
  · have hmay : c.mayPass d.client f = false := by
      rw [← Bool.not_eq_true, Client.mayPass_iff]
      exact hpass
    rw [hmay]
    cases hservice : c.isService d.client f with
    | true => exact .refused hpass hservice
    | false => exact .foreign hpass hservice

/-- From outside only what may pass is reported to be passing. -/
theorem Reported.transient_iff {s : δ} {a : Address} {f r : Failure} (h : Reported c s a f r)
    {label : Text} (hf : f.kind = .outside label) :
    r.kind = .storeTransient ↔ c.IsPassing s f := by
  cases h with
  | passing h => exact ⟨fun _ => h, fun _ => rfl⟩
  | refused h _ => exact ⟨nofun, fun hpass => absurd hpass h⟩
  | foreign h _ =>
    refine ⟨fun hkind => ?_, fun hpass => absurd hpass h⟩
    cases hf.symm.trans hkind

/-! ## 5. Transactions -/

/-- **A transaction carries its operations**: on a table that has been made ready, whenever the
client asks for the mutations of operations of transformers, it is handed over one for each of them,
in order, that stands for it, and nothing fails. If the transaction ends well so does the group, and
if it fails with some failure, what is reported is told by the failure's kinds: that it may pass if
and only if it is of one of the kinds for that. -/
theorem Database.submit_carries (hc : c.PassingAreService) {table : Text} {schema : Schema}
    {d d' : Database δ} (hschema : schema.isWellFormed = true) (hready : Prepared c table schema d)
    (hopen : d.openUp c = (.ok (), d')) {operations : List Operation}
    (hmade : ∀ o ∈ operations, ∃ keys verb t record,
      Transformer.make table schema keys verb = .ok t ∧ t.transform record = .ok o)
    (timeout? : Option Binary64) :
    (∃ ms, List.Forall₂ (fun o m => m.StandsFor (Cloud.byteColumns schema) o) operations ms ∧
      ∀ s, d'.handOver c operations s = (.ok (), ms.foldl c.buffer s)) ∧
    (∀ s, c.transact d'.client timeout? (d'.handOver c operations) = (.ok (), s) →
      d.submit c operations timeout? = (.ok (), { d' with client := s })) ∧
    ∀ f s, c.transact d'.client timeout? (d'.handOver c operations) = (.error f, s) →
      ∃ r, d.submit c operations timeout? = (.error r, { d' with client := s }) ∧
        Reported c s d'.address f r ∧
        ∀ label, f.kind = .outside label → (r.kind = .storeTransient ↔ c.IsPassing s f) := by
  have hbytes : d'.bytesOf table = Cloud.byteColumns schema := by
    have hsame := openUp_byteColumns c d
    rw [hopen] at hsame
    exact (bytesOf_congr hsame table).trans hready.bytesOf
  refine ⟨handOver_all d' fun o ho => ?_, fun s hs => ?_, fun f s hs => ?_⟩
  · obtain ⟨keys, verb, t, record, hmake, hrecord⟩ := hmade o ho
    have htable : o.table = table := by
      rw [(Transformer.transform_inv hrecord).1, (Transformer.make_inv hmake).1]
    rw [htable, hbytes]
    exact mutation_standsFor (Transformer.transform_packed hschema hmake hrecord)
  · unfold submit
    simp only [hopen, hs]
  · have hreported := report_reported hc { d' with client := s } f
    refine ⟨report c { d' with client := s } f, ?_, hreported,
      fun label hf => hreported.transient_iff hf⟩
    unfold submit
    simp only [hopen, hs]

/-- Every kind that may pass is one of the service's for the client that follows a script. -/
theorem Script.client_passingAreService : Script.client.PassingAreService := by
  intro s label name hname hone
  have hknown : ∀ n ∈ passingLabels, n ∈ serviceLabels := by decide
  have hlineage : Script.client.lineage s label =
      if serviceLabels.contains label then [label, serviceLabel] else [label] := rfl
  rw [hlineage] at hone ⊢
  by_cases hlabel : serviceLabels.contains label = true
  · rw [if_pos hlabel]
    exact List.mem_cons_of_mem label List.mem_cons_self
  · rw [if_neg hlabel, List.mem_singleton] at hone
    subst hone
    exact absurd (List.contains_iff_mem.mpr (hknown name hname)) hlabel

/-- A row with bytes, a null among a list of them, and a null instead of one, written and deleted:
once without trouble, and once with a failure that may pass. -/
theorem Database.submit_carries_bytes :
    let schema : Schema := ⟨[.ofScalar "k" false .bytes,
      .array "xs" true (.ofScalar "x" true .bytes) none, .ofScalar "b" true .bytes]⟩
    let row : Row := [("k", .bytes [0, 255]), ("xs", .list [.bytes [97], .null]), ("b", .null)]
    let operations : List Operation :=
      [⟨"t", .insert, row, ["k"]⟩, ⟨"t", .delete, [("k", .bytes [0, 255])], ["k"]⟩]
    let c := Script.client
    let ready (failure? : Option Failure) : Database Script := ((store c).prepare
      { address := ⟨none, none, some "db"⟩, createTables := false
        client := { known := serviceLabels, failures := [failure?] } } "t" schema ["k"]).state
    schema.isWellFormed = true ∧ c.PassingAreService ∧
      (∃ ms : List Mutation, List.Forall₂ (fun o m => m.StandsFor (Cloud.byteColumns schema) o)
        operations ms ∧ ((ready none).submit c operations none).1 = .ok ()) ∧
      ∃ r, ((ready (some (.outside "Aborted" "busy"))).submit c operations none).1 = .error r ∧
        r.kind = .storeTransient := by
  intro schema row operations c ready
  have hschema : schema.isWellFormed = true := by decide
  have hc : c.PassingAreService := Script.client_passingAreService
  have hmade : ∀ o ∈ operations, ∃ keys verb t record,
      Transformer.make "t" schema keys verb = .ok t ∧ t.transform record = .ok o := by
    intro o ho
    have hinsert : Transformer.transform ⟨"t", schema, ["k"], .insert⟩ (.ofPairs row) =
        .ok ⟨"t", .insert, row, ["k"]⟩ := by
      cbv
    have hdelete : Transformer.transform ⟨"t", schema, ["k"], .delete⟩ (.ofPairs row) =
        .ok ⟨"t", .delete, [("k", .bytes [0, 255])], ["k"]⟩ := by
      cbv
    rcases List.mem_pair.mp ho with rfl | rfl
    · exact ⟨["k"], .insert, _, _, rfl, hinsert⟩
    · exact ⟨["k"], .delete, _, _, rfl, hdelete⟩
  have hready : ∀ failure?, Prepared c "t" schema (ready failure?) := fun _ => .ready _ ["k"]
  obtain ⟨⟨ms, hms, hall⟩, hended, -⟩ :=
    submit_carries hc hschema (hready none) rfl hmade none
  obtain ⟨-, -, hfailed⟩ :=
    submit_carries hc hschema (hready (some (.outside "Aborted" "busy"))) rfl hmade none
  obtain ⟨r, hr, -, hkind⟩ := hfailed _ _ rfl
  refine ⟨hschema, hc, ⟨ms, hms, ?_⟩, r, ?_, (hkind _ rfl).mpr ?_⟩
  · rw [hended _ (hall _)]
  · rw [hr]
  · exact ⟨"Aborted", by decide, by decide, by decide⟩

end Transactions

end Sluice.Cloud

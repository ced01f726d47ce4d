import LiveBoard.Proofs.Board.Merging

/-! The kinds of record that patches are merged into: tasks, approvals and agents. -/

namespace LiveBoard

/-! ## Fields other than timestamps -/

/-- A field of which every value can be written and read again. -/
def Field.Plain {ε : Type} (field : Field ε) : Prop := ∀ value, field.codec.Settles value

namespace Codec

/-- Columns are exact. -/
theorem taskStatus_exact : taskStatus.Exact :=
  -- Each column is found again under its own name.
  choice_exact (by intro value; cases value <;> decide)

/-- Priorities are exact. -/
theorem taskPriority_exact : taskPriority.Exact :=
  choice_exact (by intro value; cases value <;> decide)

/-- The states of agents are exact. -/
theorem agentStatus_exact : agentStatus.Exact :=
  choice_exact (by intro value; cases value <;> decide)

/-- The states of approvals are exact. -/
theorem approvalStatus_exact : approvalStatus.Exact :=
  choice_exact (by intro value; cases value <;> decide)

section Exact

variable {α : Type} {codec : Codec α}

/-- Exact values settle. -/
theorem Exact.settles (exact : codec.Exact) (value : α) : codec.Settles value :=
  (exact value).1.settles

/-- Exact values that may be absent settle. -/
theorem Exact.optional_settles (exact : codec.Exact) (value : Option α) :
    codec.optional.Settles value :=
  (exact.optional_keeps value).settles

/-- Exact values with a default settle. -/
theorem Exact.orDefault_settles (exact : codec.Exact) (default value : α) :
    (codec.orDefault default).Settles value :=
  (exact.orDefault_keeps default value).settles

end Exact

end Codec

/-! ## Timestamps -/

/-- The keys of the timestamps of a kind of record. -/
def PatchedKind.timestamps : PatchedKind → List String
  | .task => ["due_at", "in_progress_at", "created_at", "updated_at"]
  | .approval => ["created_at", "resolved_at"]
  | .agent => ["last_seen_at", "created_at", "updated_at"]

/-- A value that is no text of an instant outside the years of four digits. -/
def Json.InEra (value : Json) : Prop := ∀ instant ∈ value.text?.bind Instant.parse?, instant.InEra

instance (value : Json) : Decidable value.InEra := inferInstanceAs (Decidable (∀ _ ∈ _, _))

/-- Every timestamp that a patch gives lies in a year of four digits. -/
def Patch.InEra (patch : Patch) (kind : PatchedKind) : Prop :=
  ∀ key ∈ kind.timestamps, ∀ value ∈ patch.get? key, value.InEra

instance (patch : Patch) (kind : PatchedKind) : Decidable (patch.InEra kind) :=
  inferInstanceAs (Decidable (∀ _ ∈ _, _))

/-- Every timestamp that there is lies in a year of four digits. -/
def Instant.AllInEra (timestamps : List (Option Instant)) : Prop :=
  ∀ timestamp ∈ timestamps, ∀ instant ∈ timestamp, instant.InEra

instance (timestamps : List (Option Instant)) : Decidable (Instant.AllInEra timestamps) :=
  inferInstanceAs (Decidable (∀ _ ∈ _, _))

section Dated

variable {ε : Type} {kind : PatchedKind} {instants : ε → List (Option Instant)}

/--
A field that is a timestamp of a kind of record.

Its values can be written and read again when they come from values, or records, of which all
timestamps lie in years of four digits.
-/
structure Field.Timestamp (field : Field ε) (kind : PatchedKind)
    (instants : ε → List (Option Instant)) : Prop where
  listed : field.key ∈ kind.timestamps
  read : ∀ {value decoded}, value.InEra → field.codec.decode? value = some decoded →
    field.codec.Settles decoded
  held : ∀ record, Instant.AllInEra (instants record) → field.codec.Settles (field.get record)

/-- An instant that every record gives is a timestamp. -/
theorem Field.timestamp_needed {key : String} {get : ε → Instant} {set : Instant → ε → ε}
    (listed : key ∈ kind.timestamps) (held : ∀ record, some (get record) ∈ instants record) :
    (Field.needed key .instant get set).Timestamp kind instants where
  listed := listed
  -- What is kept settles, and an instant is kept when its year has four digits.
  read era read := (Codec.instant_keeps (era _ read)).settles
  held record era := (Codec.instant_keeps (era _ (held record) _ rfl)).settles

/-- An instant that may be absent is kept when it is read from a text of a year of four digits. -/
theorem Codec.lenientInstant_keeps_of_read {value : Json} {decoded : Option Instant}
    (era : value.InEra) (read : lenientInstant.decode? value = some decoded) :
    lenientInstant.Keeps decoded := by
  -- A text that is no instant counts as absent, which is kept like any absent one.
  cases value with
  | null =>
    obtain rfl := Option.some.inj read
    rfl
  | string text =>
    obtain rfl := Option.some.inj read
    exact lenientInstant_keeps era
  | _ => simp [lenientInstant] at read

/-- An instant that may be absent is a timestamp. -/
theorem Field.timestamp_given {key : String} {get : ε → Option Instant}
    {set : Option Instant → ε → ε} (listed : key ∈ kind.timestamps)
    (held : ∀ record, get record ∈ instants record) :
    (Field.given key .lenientInstant get set).Timestamp kind instants where
  listed := listed
  read era read := (Codec.lenientInstant_keeps_of_read era read).settles
  held record era := (Codec.lenientInstant_keeps (era _ (held record))).settles

/-- A schema of which every field is a timestamp or has no value that cannot be read again. -/
def Schema.Dated (schema : Schema ε) (kind : PatchedKind)
    (instants : ε → List (Option Instant)) : Prop :=
  ∀ field ∈ schema.fields, field.Plain ∨ field.Timestamp kind instants

variable {schema : Schema ε}

/-- What can be read from a patch can be written and read again when its timestamps can. -/
theorem Schema.Dated.fits (dated : schema.Dated kind instants) {patch : Patch}
    (reads : schema.Reads patch) (era : patch.InEra kind) : schema.Fits patch := by
  intro field member value found
  obtain ⟨decoded, read⟩ := Option.isSome_iff_exists.mp (reads field member value found)
  refine ⟨decoded, read, ?_⟩
  -- Only a timestamp depends on what the patch says, and that is in a year of four digits.
  rcases dated field member with plain | timestamp
  · exact plain decoded
  · exact timestamp.read (era field.key timestamp.listed value found) read

/-- A record can be written and read again when its timestamps can. -/
theorem Schema.Dated.ready (dated : schema.Dated kind instants) {record : ε}
    (era : Instant.AllInEra (instants record)) : schema.Ready record := by
  intro field member
  rcases dated field member with plain | timestamp
  · -- Any value of a plain field will do; a timestamp is one of those that the record lists.
    exact plain (field.get record)
  · exact timestamp.held record era

/-- Patches in years of four digits that were merged last are merged again and change nothing. -/
theorem Schema.Dated.upsertAll_again {merging : Merging ε} (lawful : merging.Lawful)
    (dated : merging.schema.Dated merging.kind instants) {run more : List Patch}
    (suffix : more <:+ run) (era : ∀ patch ∈ run, patch.InEra merging.kind) {items result : List ε}
    (held : ∀ item ∈ items, Instant.AllInEra (instants item))
    (merged : merging.upsertAll run items = .ok result) :
    merging.upsertAll more result = .ok result := by
  obtain ⟨former, rfl⟩ := suffix
  -- Patches were accepted, so they say only what can be read.
  have said := (lawful.upsertAll_eq_ok merged).1
  exact lawful.upsertAll_again
    -- All that the patches said then, and all that the records held before, is read again.
    (fun patch member =>
      ⟨(said patch member).1, dated.fits (said patch member).2 (era patch member)⟩)
    (fun item member => dated.ready (held item member)) merged

end Dated

/-! ## Records that are stored as their patches make them -/

section Stored

variable {ε : Type} (kind : PatchedKind) (schema : Schema ε) (idOf : ε → String)

/-- A kind of record that is stored as its patches make it. -/
def Merging.stored : Merging ε where
  kind := kind
  schema := schema
  idOf := idOf
  finish _ record := record
  stamp _ := ()
  finished := []

/-- Patches of records that are stored as they are made are understood field by field. -/
theorem Merging.stored_lawful {schema : Schema ε} (lawful : schema.Lawful)
    (blank : ∀ field ∈ schema.fields, field.codec.Keeps (field.get schema.blank))
    (identifier : ∃ set, .needed "id" .text idOf set ∈ schema.fields) :
    (stored kind schema idOf).Lawful where
  schema := lawful
  blank := blank
  identifier := identifier
  idOf_finish _ _ := rfl
  get_finish _ _ _ _ _ := rfl
  settles _ _ := nofun
  stamp_finish _ _ := rfl
  -- No field is overwritten, so records that agree on the others are one record.
  finish_congr _ same := lawful.ext fun field member => same field member nofun

end Stored

open Codec LiveBoard.Field

/-! ## Tasks -/

/-- The fields of a task are independent of each other. -/
theorem Task.schema_lawful : Task.schema.Lawful where
  distinct := by decide
  -- Setting a field and getting it are projections of one record, so each law holds by computation.
  faithful := by simp [Task.schema, needed, given]
  apart := by simp [Task.schema, needed, given, Apart]
  ext := by
    intro record other same
    cases record
    cases other
    simpa [Task.schema, needed, given] using same

/-- The timestamps of a task. -/
def Task.instants (task : Task) : List (Option Instant) :=
  [task.dueAt, task.inProgressAt, task.createdAt, task.updatedAt]

/-- Of a task, only the timestamps may not be read again. -/
theorem Task.schema_dated : Task.schema.Dated .task Task.instants := by
  -- Each field is named in the order of the schema, the timestamps by their place.
  simp only [Schema.Dated, Task.schema, List.forall_mem_cons]
  refine ⟨.inl text_exact.settles, .inl text_exact.optional_settles, .inl text_exact.settles,
    .inl text_exact.optional_settles, .inl (taskStatus_exact.orDefault_settles _),
    .inl (taskPriority_exact.orDefault_settles _), .inr (timestamp_given ?_ ?_),
    .inl text_exact.optional_settles, .inl text_exact.optional_settles,
    .inr (timestamp_given ?_ ?_), .inr (timestamp_given ?_ ?_), .inr (timestamp_given ?_ ?_),
    .inl text_exact.optional_settles, .inl (count_exact.orDefault_settles _),
    .inl (count_exact.orDefault_settles _), nofun⟩
  all_goals simp [PatchedKind.timestamps, Task.instants]

/-- Tasks, of which the counters are kept and the assignee is looked up among the agents. -/
def Task.merging (agents : List Agent) : Merging Task where
  kind := .task
  schema := Task.schema
  idOf := (·.id)
  finish := BoardState.finishTask agents
  stamp held := (held.elim 0 (·.approvalsCount), held.elim 0 (·.approvalsPendingCount))
  finished := ["assignee", "approvals_count", "approvals_pending_count"]

/-- Patches of tasks are understood field by field. -/
theorem Task.merging_lawful (agents : List Agent) : (Task.merging agents).Lawful where
  schema := Task.schema_lawful
  blank := by
    simp only [merging, Task.schema, List.forall_mem_cons]
    exact ⟨rfl, rfl, rfl, rfl, rfl, rfl, rfl, rfl, rfl, rfl, rfl, rfl, rfl, rfl, rfl, nofun⟩
  identifier := ⟨_, List.mem_cons_self⟩
  idOf_finish _ _ := rfl
  get_finish := by simp [merging, Task.schema, needed, given, BoardState.finishTask]
  settles := by
    intro field member finished value
    -- None of the fields that finishing overwrites is a timestamp.
    refine (Task.schema_dated field member).elim (· value) fun timestamp => ?_
    have listed := timestamp.listed
    simp only [merging, List.mem_cons, List.not_mem_nil, or_false] at finished
    rcases finished with key | key | key <;> simp [key, PatchedKind.timestamps] at listed
  stamp_finish _ _ := rfl
  finish_congr := by
    intro held other record result stamp same
    obtain ⟨count, pending⟩ := Prod.mk.inj stamp
    -- What is left of the record are the fields that finishing does not overwrite.
    simp only [merging, Task.schema, needed, given, List.mem_cons, List.not_mem_nil, or_false,
      not_or, and_imp, forall_eq_or_imp, String.reduceEq, not_false_eq_true, forall_const,
      not_true_eq_false, IsEmpty.forall_iff, forall_eq, and_self, and_true] at same
    simp [merging, BoardState.finishTask, same, count, pending]

/-! ## Approvals -/

/-- The fields of an approval are independent of each other. -/
theorem Approval.schema_lawful : Approval.schema.Lawful where
  distinct := by decide
  faithful := by simp [Approval.schema, needed, given]
  apart := by simp [Approval.schema, needed, given, Apart]
  ext := by
    intro record other same
    cases record
    cases other
    simpa [Approval.schema, needed, given] using same

/-- The timestamps of an approval. -/
def Approval.instants (approval : Approval) : List (Option Instant) :=
  [some approval.createdAt, approval.resolvedAt]

/-- Of an approval, only the timestamps may not be read again. -/
theorem Approval.schema_dated : Approval.schema.Dated .approval Approval.instants := by
  simp only [Schema.Dated, Approval.schema, List.forall_mem_cons]
  -- Confidence, the seventh, is a number: one that is not finite is written as null and settles.
  refine ⟨.inl text_exact.settles, .inl text_exact.optional_settles,
    .inl text_exact.optional_settles, .inl text_exact.optional_settles, .inl text_exact.settles,
    .inl (approvalStatus_exact.orDefault_settles _), .inl real_settles,
    .inl map_exact.optional_settles, .inl map_exact.optional_settles,
    .inr (timestamp_needed ?_ ?_), .inr (timestamp_given ?_ ?_), nofun⟩
  all_goals simp [PatchedKind.timestamps, Approval.instants]

/-- Approvals, which are stored as their patches make them. -/
def Approval.merging : Merging Approval := .stored .approval Approval.schema (·.id)

/-- Patches of approvals are understood field by field. -/
theorem Approval.merging_lawful : Approval.merging.Lawful := by
  refine Merging.stored_lawful .approval (·.id) Approval.schema_lawful ?_ ⟨_, List.mem_cons_self⟩
  -- The default instant is the start of 1970, which is written and read again.
  have era : (default : Instant).InEra := by decide
  simp only [Approval.schema, List.forall_mem_cons]
  exact ⟨rfl, rfl, rfl, rfl, rfl, rfl, rfl, rfl, rfl, instant_keeps era, rfl, nofun⟩

/-! ## Agents -/

/-- The fields of an agent are independent of each other. -/
theorem Agent.schema_lawful : Agent.schema.Lawful where
  distinct := by decide
  faithful := by simp [Agent.schema, needed, given]
  apart := by simp [Agent.schema, needed, given, Apart]
  ext := by
    intro record other same
    cases record
    cases other
    simpa [Agent.schema, needed, given] using same

/-- The timestamps of an agent. -/
def Agent.instants (agent : Agent) : List (Option Instant) :=
  [agent.lastSeenAt, agent.createdAt, agent.updatedAt]

/-- Of an agent, only the timestamps may not be read again. -/
theorem Agent.schema_dated : Agent.schema.Dated .agent Agent.instants := by
  simp only [Schema.Dated, Agent.schema, List.forall_mem_cons]
  refine ⟨.inl text_exact.settles, .inl text_exact.settles,
    .inl (agentStatus_exact.orDefault_settles _), .inl text_exact.optional_settles,
    .inl (flag_exact.orDefault_settles _), .inl (flag_exact.orDefault_settles _),
    .inl map_exact.optional_settles, .inr (timestamp_given ?_ ?_), .inr (timestamp_given ?_ ?_),
    .inr (timestamp_given ?_ ?_), nofun⟩
  all_goals simp [PatchedKind.timestamps, Agent.instants]

/-- Agents, which are stored as their patches make them. -/
def Agent.merging : Merging Agent := .stored .agent Agent.schema (·.id)

/-- Patches of agents are understood field by field. -/
theorem Agent.merging_lawful : Agent.merging.Lawful := by
  refine Merging.stored_lawful .agent (·.id) Agent.schema_lawful ?_ ⟨_, List.mem_cons_self⟩
  simp only [Agent.schema, List.forall_mem_cons]
  exact ⟨rfl, rfl, rfl, rfl, rfl, rfl, rfl, rfl, rfl, rfl, nofun⟩

end LiveBoard

import LiveBoard.Proofs.Board.Kinds
import LiveBoard.Proofs.Instant.Outside
import LiveBoard.Proofs.Json.Finite

/-!
What a patch makes of each field of a record.

A field that the patch names gets the value that it gives, null standing for the default. Any other
field is kept, but for a timestamp outside the years of four digits: it is not read again from what
is written of it, so the field gets its default.
-/

namespace LiveBoard

/-- The timestamp that a record of a kind has under a key, if it has one there. -/
def PatchedKind.stamp? (kind : PatchedKind) (instants : List (Option Instant)) (key : String) :
    Option Instant :=
  ((kind.timestamps.zip instants).lookup key).join

/-- The timestamp of a task under a key. -/
def Task.stamp? (task : Task) : String → Option Instant := PatchedKind.task.stamp? task.instants

/-- The timestamp of an approval under a key. -/
def Approval.stamp? (approval : Approval) : String → Option Instant :=
  PatchedKind.approval.stamp? approval.instants

/-- The timestamp of an agent under a key. -/
def Agent.stamp? (agent : Agent) : String → Option Instant :=
  PatchedKind.agent.stamp? agent.instants

/-- The kinds of record that patches change, each with the timestamps of its records. -/
inductive Patched : {ε : Type} → Schema ε → (ε → String → Option Instant) → Prop where
  | task : Patched Task.schema Task.stamp?
  | approval : Patched Approval.schema Approval.stamp?
  | agent : Patched Agent.schema Agent.stamp?

section Faithful

variable {ε α : Type} {blank : ε} {stamp? : ε → String → Option Instant}

/--
A field that is read again as what was written of it.

Only a timestamp outside the years of four digits is read as the default instead. Null is read as
the default, if it is read at all.
-/
structure Field.Faithful (field : Field ε) (blank : ε) (stamp? : ε → String → Option Instant) :
    Prop where
  null : ∀ value, field.codec.decode? .null = some value → value = field.get blank
  reread : ∀ {record : ε} {value : field.α}, field.Sourced blank record →
    field.codec.decode? (field.codec.encode (field.get record)) = some value →
    value = if ∃ instant ∈ stamp? record field.key, ¬ instant.InEra then field.get blank
      else field.get record

variable {key : String} {required : Bool}

/-- A field that is no timestamp is faithful when what it holds is kept. -/
theorem Field.faithful_of_keeps {field : Field ε}
    (null : ∀ value, field.codec.decode? .null = some value → value = field.get blank)
    (keeps : ∀ record, field.Sourced blank record → field.codec.Keeps (field.get record))
    (undated : ∀ record, stamp? record field.key = none) : field.Faithful blank stamp? where
  null := null
  reread := by
    intro record value sourced read
    -- No timestamp is under its key, so the exception does not apply.
    have same : field.get record = value := Option.some.inj ((keeps record sourced).symm.trans read)
    simp [undated, same]

/-- A text is faithful. -/
theorem Field.faithful_text {get : ε → String} {set : String → ε → ε}
    (undated : ∀ record, stamp? record key = none) :
    (Field.mk key required .text get set).Faithful blank stamp? :=
  faithful_of_keeps nofun (fun record _ => Codec.text_keeps (get record)) undated

/-- A value that may be absent, and has no default of its own, is faithful. -/
theorem Field.faithful_optional {codec : Codec α} {get : ε → Option α} {set : Option α → ε → ε}
    (exact : codec.Exact) (absent : get blank = none)
    (undated : ∀ record, stamp? record key = none) :
    (Field.mk key required codec.optional get set).Faithful blank stamp? :=
  faithful_of_keeps (fun _ read => (Option.some.inj read).symm.trans absent.symm)
    (fun record _ => exact.optional_keeps (get record)) undated

/-- A value with a default is faithful. -/
theorem Field.faithful_orDefault {codec : Codec α} {default : α} {get : ε → α} {set : α → ε → ε}
    (exact : codec.Exact) (defaulted : get blank = default)
    (undated : ∀ record, stamp? record key = none) :
    (Field.mk key required (codec.orDefault default) get set).Faithful blank stamp? :=
  faithful_of_keeps (fun _ read => (Option.some.inj read).symm.trans defaulted.symm)
    (fun record _ => exact.orDefault_keeps default (get record)) undated

/-- A number is faithful, as the numbers of JSON are finite. -/
theorem Field.faithful_real {get : ε → Binary64} {set : Binary64 → ε → ε}
    (zero : get blank = .zero) (undated : ∀ record, stamp? record key = none) :
    (Field.mk key required (.orDefault .real .zero) get set).Faithful blank stamp? := by
  refine faithful_of_keeps (fun _ read => (Option.some.inj read).symm.trans zero.symm) ?_ undated
  intro record sourced
  -- The field holds the default, which is zero, or a number that was read.
  have finite : (get record).isFinite := by
    rcases sourced with default | ⟨value, finite, read⟩
    · have same : get record = .zero := default.trans zero
      rw [same]
      decide
    · exact Codec.isFinite_of_real finite read
  exact Codec.real_keeps finite

/-- A timestamp that may be absent is faithful. -/
theorem Field.faithful_lenientInstant {get : ε → Option Instant} {set : Option Instant → ε → ε}
    (absent : get blank = none) (dated : ∀ record, stamp? record key = get record) :
    (Field.mk key required .lenientInstant get set).Faithful blank stamp? where
  null _ read := (Option.some.inj read).symm.trans absent.symm
  reread := by
    intro record value _ read
    simp only [dated]
    -- An absent timestamp is written as null and read as absent.
    cases held : get record with
    | none =>
      simp only [held] at read
      obtain rfl := Option.some.inj read
      simp
    | some instant =>
      simp only [held, Codec.lenientInstant, Option.elim_some] at read
      obtain rfl := Option.some.inj read
      -- What is written is read as the instant that it was, or is no instant at all.
      by_cases era : instant.InEra
      · simp [era, Instant.parse?_render era]
      · simp [era, Instant.parse?_render_eq_none era, absent]

/-- A timestamp that every record gives is faithful. -/
theorem Field.faithful_instant {get : ε → Instant} {set : Instant → ε → ε}
    (dated : ∀ record, stamp? record key = some (get record)) :
    (Field.mk key required .instant get set).Faithful blank stamp? where
  null := by simp [Codec.instant, Json.text?]
  reread := by
    intro record value _ read
    simp only [Codec.instant, Json.text?, Option.bind_some] at read
    -- A record is refused when such a timestamp is lost, so it is one that is read again.
    have era : (get record).InEra := by
      by_contra outside
      simp [Instant.parse?_render_eq_none outside] at read
    rw [Instant.parse?_render era] at read
    obtain rfl := Option.some.inj read
    simp [dated, era]

end Faithful

open Codec LiveBoard.Field

/-- The fields of a task are faithful. -/
theorem Task.faithful : ∀ field ∈ Task.schema.fields,
    field.Faithful Task.schema.blank Task.stamp? := by
  simp only [Task.schema, List.forall_mem_cons]
  -- One lemma for each kind of field, in the order of the fields.
  exact ⟨faithful_text fun _ => rfl, faithful_optional text_exact rfl fun _ => rfl,
    faithful_text fun _ => rfl, faithful_optional text_exact rfl fun _ => rfl,
    faithful_orDefault taskStatus_exact rfl fun _ => rfl,
    faithful_orDefault taskPriority_exact rfl fun _ => rfl,
    faithful_lenientInstant rfl fun _ => rfl, faithful_optional text_exact rfl fun _ => rfl,
    faithful_optional text_exact rfl fun _ => rfl, faithful_lenientInstant rfl fun _ => rfl,
    faithful_lenientInstant rfl fun _ => rfl, faithful_lenientInstant rfl fun _ => rfl,
    faithful_optional text_exact rfl fun _ => rfl, faithful_orDefault count_exact rfl fun _ => rfl,
    faithful_orDefault count_exact rfl fun _ => rfl, List.forall_mem_nil _⟩

/-- The fields of an approval are faithful. -/
theorem Approval.faithful : ∀ field ∈ Approval.schema.fields,
    field.Faithful Approval.schema.blank Approval.stamp? := by
  simp only [Approval.schema, List.forall_mem_cons]
  exact ⟨faithful_text fun _ => rfl, faithful_optional text_exact rfl fun _ => rfl,
    faithful_optional text_exact rfl fun _ => rfl, faithful_optional text_exact rfl fun _ => rfl,
    faithful_text fun _ => rfl, faithful_orDefault approvalStatus_exact rfl fun _ => rfl,
    faithful_real rfl fun _ => rfl, faithful_optional map_exact rfl fun _ => rfl,
    faithful_optional map_exact rfl fun _ => rfl, faithful_instant fun _ => rfl,
    faithful_lenientInstant rfl fun _ => rfl, List.forall_mem_nil _⟩

/-- The fields of an agent are faithful. -/
theorem Agent.faithful : ∀ field ∈ Agent.schema.fields,
    field.Faithful Agent.schema.blank Agent.stamp? := by
  simp only [Agent.schema, List.forall_mem_cons]
  exact ⟨faithful_text fun _ => rfl, faithful_text fun _ => rfl,
    faithful_orDefault agentStatus_exact rfl fun _ => rfl,
    faithful_optional text_exact rfl fun _ => rfl, faithful_orDefault flag_exact rfl fun _ => rfl,
    faithful_orDefault flag_exact rfl fun _ => rfl, faithful_optional map_exact rfl fun _ => rfl,
    faithful_lenientInstant rfl fun _ => rfl, faithful_lenientInstant rfl fun _ => rfl,
    faithful_lenientInstant rfl fun _ => rfl, List.forall_mem_nil _⟩

section Patched

variable {ε : Type} {schema : Schema ε} {stamp? : ε → String → Option Instant}

/-- The fields of a kind of record that patches change are independent of each other. -/
theorem Patched.lawful (patched : Patched schema stamp?) : schema.Lawful := by
  -- Each kind of record has shown it of its own fields.
  cases patched with
  | task => exact Task.schema_lawful
  | approval => exact Approval.schema_lawful
  | agent => exact Agent.schema_lawful

/-- The fields of a kind of record that patches change are faithful. -/
theorem Patched.faithful (patched : Patched schema stamp?) :
    ∀ field ∈ schema.fields, field.Faithful schema.blank stamp? := by
  cases patched with
  | task => exact Task.faithful
  | approval => exact Approval.faithful
  | agent => exact Agent.faithful

/--
A patch gives the fields that it names their values, and keeps all others but for lost timestamps.

This holds of every task, approval and agent that is read from JSON, whose numbers are all finite,
and whatever the patch. Null gives a field its default. A timestamp outside the years of four digits
that the patch does not name is lost, as its text is none that is read, and the field gets its
default, which is to be absent.
-/
theorem Patched.apply_fields (patched : Patched schema stamp?) {source : Json}
    {record result : ε} {patch : Patch} (finite : source.isFinite)
    (decoded : schema.decode source = .ok record)
    (applied : patch.apply schema record = .ok result) :
    ∀ field ∈ schema.fields,
      (∀ value, patch.get? field.key = some value →
        field.codec.decode? value = some (field.get result) ∧
          (value = .null → field.get result = field.get schema.blank)) ∧
      (patch.get? field.key = none →
        field.get result =
          if ∃ instant ∈ stamp? record field.key, ¬ instant.InEra then field.get schema.blank
          else field.get record) := by
  intro field member
  have faithful := patched.faithful field member
  -- Each field is read from what the patch says, or else from what is written of the record.
  have read := patched.lawful.apply_eq_ok.mp applied field member
  unfold Field.reread? at read
  constructor
  · intro value named
    rw [named, Option.getD_some] at read
    refine ⟨read, fun null => ?_⟩
    rw [null] at read
    exact faithful.null _ read
  · intro unnamed
    rw [unnamed, Option.getD_none] at read
    exact faithful.reread (patched.lawful.sourced finite decoded member) read

end Patched

/-- An agent that was last seen so late in 9999 that it is the year 10000 in universal time. -/
def lateAgent : Json :=
  .object [("created_at", .string "2026-02-28T12:00:00Z"), ("id", .string "a"),
    ("last_seen_at", .string "9999-12-31T23:00:00-02:00"), ("name", .string "Ada"),
    ("status", .string "online")]

/-- The late agent as it is read. -/
def lateAda : Agent :=
  { Agent.schema.blank with
    id := "a", name := "Ada", status := .online
    lastSeenAt := some ⟨253402304400, 0, by decide⟩
    createdAt := some ⟨1772280000, 0, by decide⟩ }

/-- A patch that gives an agent another name and clears its status. -/
def renamedOffline : Patch := [("id", .string "a"), ("name", .string "Bea"), ("status", .null)]

/-- The late agent after the patch, which said nothing of when it was last seen. -/
def lateBea : Agent :=
  { lateAda with name := "Bea", status := .offline, lastSeenAt := none }

/-- A patch loses a timestamp that it does not name. -/
theorem not_forall_untouched :
    ¬ ∀ (ε : Type) (schema : Schema ε) (stamp? : ε → String → Option Instant) (source : Json)
      (record result : ε) (patch : Patch), Patched schema stamp? → source.isFinite →
      schema.decode source = .ok record → patch.apply schema record = .ok result →
      ∀ field ∈ schema.fields,
        (∀ value, patch.get? field.key = some value →
          field.codec.decode? value = some (field.get result)) ∧
        (patch.get? field.key = none → field.get result = field.get record) := by
  intro always
  -- The late agent loses the time when it was last seen to a patch that only renames it.
  have fields := always Agent Agent.schema Agent.stamp? lateAgent lateAda lateBea renamedOffline
    .agent (by decide) (by decide) (by decide)
  -- Of the fields of an agent, the eighth is the time when it was last seen.
  simp only [Agent.schema, List.forall_mem_cons] at fields
  obtain ⟨-, -, -, -, -, -, -, lastSeen, -⟩ := fields
  have kept : lateBea.lastSeenAt = lateAda.lastSeenAt := lastSeen.2 (by decide)
  exact absurd kept (by decide)

/-- The late agent gets its name, keeps one timestamp and loses the other. -/
theorem Patched.apply_fields_lateAgent :
    Agent.schema.decode lateAgent = .ok lateAda ∧
      renamedOffline.apply Agent.schema lateAda = .ok lateBea ∧
      lateBea.status = Agent.schema.blank.status ∧ lateBea.createdAt = lateAda.createdAt ∧
      lateBea.lastSeenAt = Agent.schema.blank.lastSeenAt := by
  have decoded : Agent.schema.decode lateAgent = .ok lateAda := by decide
  have applied : renamedOffline.apply Agent.schema lateAda = .ok lateBea := by decide
  -- Three of the ten fields stand for all that may happen to one: named, kept and lost.
  have fields := Patched.agent.apply_fields (by decide) decoded applied
  simp only [Agent.schema, List.forall_mem_cons] at fields
  obtain ⟨-, -, status, -, -, -, -, lastSeen, created, -⟩ := fields
  have lost : ∃ instant ∈ lateAda.stamp? "last_seen_at", ¬ instant.InEra := by decide
  have held : ¬ ∃ instant ∈ lateAda.stamp? "created_at", ¬ instant.InEra := by decide
  exact ⟨decoded, applied, (status.1 .null (by decide)).2 rfl,
    (created.2 (by decide)).trans (if_neg held), (lastSeen.2 (by decide)).trans (if_pos lost)⟩

end LiveBoard

import LiveBoard.Proofs.Board.Untouched
import LiveBoard.Proofs.Json.Readings

/-!
Every record that is read from JSON is read again from what is written of it.

What is written need not be what was read: a record may come by position, with nulls for defaults,
or with times in another zone. Only times outside the years of four digits are not read again.
-/

namespace LiveBoard

namespace Codec

section Rereads

variable {α : Type} {codec : Codec α} {stamps : α → List (Option Instant)}

/-- A kind of field keeps what it reads of finite values, if the timestamps in that can be kept. -/
def Rereads (codec : Codec α) (stamps : α → List (Option Instant)) : Prop :=
  ∀ ⦃value decoded⦄, value.isFinite → codec.decode? value = some decoded →
    Instant.AllInEra (stamps decoded) → codec.Keeps decoded

/-- A kind of field that keeps every value keeps what it reads. -/
theorem rereads_of_keeps (keeps : ∀ value, codec.Keeps value) : codec.Rereads stamps :=
  fun _ _ _ _ _ => keeps _

/-- An instant is kept if it is in a year of four digits. -/
theorem instant_rereads : instant.Rereads fun held => [some held] :=
  fun _ _ _ _ era => instant_keeps (era _ (List.mem_singleton_self _) _ rfl)

/-- An instant that may be absent is kept if it is in a year of four digits. -/
theorem lenientInstant_rereads : lenientInstant.Rereads fun held => [held] :=
  fun _ _ _ _ era => lenientInstant_keeps (era _ (List.mem_singleton_self _))

/-- Null is read as the default, which has to be kept, and any other value as without one. -/
theorem Rereads.orDefault {default : α} (rereads : codec.Rereads stamps)
    (keeps : codec.Keeps default) (filled : ∀ value, codec.encode value ≠ .null) :
    (codec.orDefault default).Rereads stamps := by
  intro value decoded finite read era
  refine orDefault_keeps ?_ (filled decoded)
  -- What is written is never null, so the default comes back as the value that it is.
  by_cases null : value = .null
  · subst null
    obtain rfl := Option.some.inj read
    exact keeps
  · rw [orDefault_decode? null] at read
    exact rereads finite read era

/-- Items that are read one by one are read again one by one. -/
theorem Rereads.mapM (rereads : codec.Rereads stamps) {items : List Json} {decoded : List α}
    (finite : ∀ item ∈ items, item.isFinite) (read : items.mapM codec.decode? = some decoded)
    (era : ∀ value ∈ decoded, Instant.AllInEra (stamps value)) :
    (decoded.map codec.encode).mapM codec.decode? = some decoded := by
  -- Along the items, each of which was read without a look at the others.
  induction items generalizing decoded with
  | nil =>
    obtain rfl := Option.some.inj read
    rfl
  | cons item items ih =>
    rw [List.mapM_cons] at read
    obtain ⟨first, head, rest⟩ := Option.bind_eq_some_iff.mp read
    obtain ⟨others, tail, same⟩ := Option.bind_eq_some_iff.mp rest
    obtain rfl := Option.some.inj same
    -- The first item and the others were read apart, and so is what is written of them.
    have again : codec.decode? (codec.encode first) = some first :=
      rereads (finite item (by simp)) head (era first (by simp))
    have later := ih (fun other member => finite other (by simp [member])) tail
      fun value member => era value (by simp [member])
    rw [List.map_cons, List.mapM_cons, again, later]
    rfl

/-- A list is kept if each of its items is. -/
theorem Rereads.list (rereads : codec.Rereads stamps) :
    (codec.list).Rereads (·.flatMap stamps) := by
  intro value decoded finite read era
  cases value with
  | array items =>
    -- The timestamps of each item are among those of the list.
    refine rereads.mapM (Json.itemsFinite_iff.mp finite) read fun value member => ?_
    exact fun timestamp held => era timestamp (List.mem_flatMap.mpr ⟨value, member, held⟩)
  | _ => simp [Codec.list, Json.items?] at read

/-- A list that may be left out, or be null, is kept if each of its items is. -/
theorem Rereads.orEmpty (rereads : codec.Rereads stamps) :
    (codec.list.orDefault []).Rereads (·.flatMap stamps) :=
  rereads.list.orDefault rfl fun _ => by simp [Codec.list]

end Rereads

end Codec

/-! ## Records -/

section Records

variable {ε : Type} {blank : ε} {instants : ε → List (Option Instant)}

/-- A field that keeps its default, and what it reads for a record whose timestamps can be kept. -/
structure Field.Rereads (field : Field ε) (blank : ε) (instants : ε → List (Option Instant)) :
    Prop where
  default : field.codec.Keeps (field.get blank)
  read : ∀ {value record}, value.isFinite → field.codec.decode? value = some (field.get record) →
    Instant.AllInEra (instants record) → field.codec.Keeps (field.get record)

/-- A field keeps what its kind keeps, if the timestamps in it are among those of the record. -/
theorem Field.rereads_of_codec {α : Type} {codec : Codec α} {stamps : α → List (Option Instant)}
    {key : String} {required : Bool} {get : ε → α} {set : α → ε → ε}
    (default : codec.Keeps (get blank)) (rereads : codec.Rereads stamps)
    (listed : ∀ record, stamps (get record) ⊆ instants record) :
    (Field.mk key required codec get set).Rereads blank instants where
  default := default
  read {_ record} finite read era :=
    rereads finite read fun timestamp held => era timestamp (listed record held)

/-- A field of a kind that keeps every value keeps what it reads. -/
theorem Field.rereads_of_keeps {α : Type} {codec : Codec α} {key : String} {required : Bool}
    {get : ε → α} {set : α → ε → ε} (keeps : ∀ value, codec.Keeps value) :
    (Field.mk key required codec get set).Rereads blank instants where
  default := keeps _
  read _ _ _ := keeps _

variable {schema : Schema ε} (lawful : schema.Lawful)
include lawful

/-- A record is kept when each of its fields is. -/
theorem Schema.Lawful.keeps {record : ε}
    (keeps : ∀ field ∈ schema.fields, field.codec.Keeps (field.get record)) :
    schema.codec.Keeps record := by
  refine lawful.ofMembers?_eq_some.mpr fun field member => ?_
  -- What is written has one member for each field, under the key of the field.
  have found : (schema.members record).get? field.key =
      some (field.codec.encode (field.get record)) :=
    Members.get?_of_mem (map_fst_members record ▸ lawful.distinct)
      (List.mem_map.mpr ⟨field, member, rfl⟩)
  rw [Field.read?, found]
  exact keeps field member

/-- A kind of record keeps what it reads if each of its fields does. -/
theorem Schema.Lawful.rereads
    (fields : ∀ field ∈ schema.fields, field.Rereads schema.blank instants) :
    schema.codec.Rereads instants := by
  intro value record finite read era
  refine lawful.keeps fun field member => ?_
  have decoded : schema.decode value = .ok record := Codec.decode_eq_ok.mpr read
  -- A field that is left out holds its default.
  rcases lawful.sourced finite decoded member with left | ⟨given, givenFinite, givenRead⟩
  · rw [left]
    exact (fields field member).default
  · exact (fields field member).read givenFinite givenRead era

end Records

open Codec LiveBoard.Field

/-! ## Records that patches change -/

/-- A timestamp that a record has under a key is one of its timestamps. -/
theorem PatchedKind.mem_of_stamp? {kind : PatchedKind} {instants : List (Option Instant)}
    {key : String} {instant : Instant} (held : kind.stamp? instants key = some instant) :
    some instant ∈ instants := by
  -- The timestamps are listed beside the keys of their fields.
  obtain ⟨former, later, split, -⟩ := List.lookup_eq_some_iff.mp (Option.join_eq_some_iff.mp held)
  have member : (key, some instant) ∈ kind.timestamps.zip instants := by simp [split]
  exact (List.of_mem_zip member).2

/-- Faithful fields keep what they read, since the timestamps that they would lose can be kept. -/
theorem Schema.Dated.rereads {ε : Type} {schema : Schema ε} {kind : PatchedKind}
    {instants : ε → List (Option Instant)} (dated : schema.Dated kind instants)
    (defaults : ∀ field ∈ schema.fields, field.codec.Keeps (field.get schema.blank))
    (faithful : ∀ field ∈ schema.fields,
      field.Faithful schema.blank fun record => kind.stamp? (instants record)) :
    ∀ field ∈ schema.fields, field.Rereads schema.blank instants := by
  intro field member
  refine ⟨defaults field member, fun {value record} finite read era => ?_⟩
  -- What is written can be read, and the field is faithful in what it reads.
  have written := (dated.ready era field member).decode?_encode
  have same := (faithful field member).reread (.inr ⟨value, finite, read⟩) written
  rw [if_neg fun ⟨instant, held, outside⟩ =>
    outside (era _ (PatchedKind.mem_of_stamp? held) instant rfl)] at same
  exact written.trans (congrArg some same)

/-- Tasks are kept as they are read. -/
theorem Task.rereads : Task.schema.codec.Rereads Task.instants :=
  Task.schema_lawful.rereads
    (Task.schema_dated.rereads (Task.merging_lawful []).blank Task.faithful)

/-- Approvals are kept as they are read. -/
theorem Approval.rereads : Approval.schema.codec.Rereads Approval.instants :=
  Approval.schema_lawful.rereads
    (Approval.schema_dated.rereads Approval.merging_lawful.blank Approval.faithful)

/-- Agents are kept as they are read. -/
theorem Agent.rereads : Agent.schema.codec.Rereads Agent.instants :=
  Agent.schema_lawful.rereads
    (Agent.schema_dated.rereads Agent.merging_lawful.blank Agent.faithful)

/-! ## Records that are taken over whole -/

/-- The fields of a board are independent of each other. -/
theorem Board.schema_lawful : Board.schema.Lawful where
  distinct := by decide
  faithful := by simp [Board.schema, needed, given]
  apart := by simp [Board.schema, needed, given, Apart]
  ext := by
    intro record other same
    cases record
    cases other
    simpa [Board.schema, needed, given] using same

/-- The timestamps of a board. -/
def Board.instants (board : Board) : List (Option Instant) := [board.createdAt, board.updatedAt]

/-- The fields of a board keep what they read. -/
theorem Board.fields_reread : ∀ field ∈ Board.schema.fields,
    field.Rereads Board.schema.blank Board.instants := by
  -- Each field is named in the order of the schema, the two timestamps last.
  simp only [Board.schema, List.forall_mem_cons]
  refine ⟨rereads_of_keeps text_keeps, rereads_of_keeps text_keeps,
    rereads_of_keeps text_exact.optional_keeps, rereads_of_keeps text_exact.optional_keeps,
    rereads_of_keeps text_exact.optional_keeps, rereads_of_codec rfl lenientInstant_rereads ?_,
    rereads_of_codec rfl lenientInstant_rereads ?_, List.forall_mem_nil _⟩
  all_goals simp [Board.instants]

/-- The fields of a comment are independent of each other. -/
theorem TaskComment.schema_lawful : TaskComment.schema.Lawful where
  distinct := by decide
  faithful := by simp [TaskComment.schema, needed, given]
  apart := by simp [TaskComment.schema, needed, given, Apart]
  ext := by
    intro record other same
    cases record
    cases other
    simpa [TaskComment.schema, needed, given] using same

/-- The timestamps of a comment. -/
def TaskComment.instants (comment : TaskComment) : List (Option Instant) := [some comment.createdAt]

/-- The fields of a comment keep what they read. -/
theorem TaskComment.fields_reread : ∀ field ∈ TaskComment.schema.fields,
    field.Rereads TaskComment.schema.blank TaskComment.instants := by
  -- The default instant is the start of 1970, which is written and read again.
  have era : (default : Instant).InEra := by decide
  simp only [TaskComment.schema, List.forall_mem_cons]
  exact ⟨rereads_of_keeps text_keeps, rereads_of_keeps text_exact.optional_keeps,
    rereads_of_keeps text_exact.optional_keeps, rereads_of_keeps text_exact.optional_keeps,
    rereads_of_codec (instant_keeps era) instant_rereads fun _ => List.Subset.refl _,
    List.forall_mem_nil _⟩

/-- The fields of a message are independent of each other. -/
theorem ChatMessage.schema_lawful : ChatMessage.schema.Lawful where
  distinct := by decide
  faithful := by simp [ChatMessage.schema, needed, given]
  apart := by simp [ChatMessage.schema, needed, given, Apart]
  ext := by
    intro record other same
    cases record
    cases other
    simpa [ChatMessage.schema, needed, given] using same

/-- The timestamps of a message. -/
def ChatMessage.instants (message : ChatMessage) : List (Option Instant) := [some message.createdAt]

/-- The fields of a message keep what they read. -/
theorem ChatMessage.fields_reread : ∀ field ∈ ChatMessage.schema.fields,
    field.Rereads ChatMessage.schema.blank ChatMessage.instants := by
  have era : (default : Instant).InEra := by decide
  -- The tags are texts, which hold no timestamps.
  have tags := @Rereads.orEmpty _ text (fun _ => []) (rereads_of_keeps text_keeps)
  simp only [ChatMessage.schema, List.forall_mem_cons]
  refine ⟨rereads_of_keeps text_keeps, rereads_of_keeps text_exact.optional_keeps,
    rereads_of_keeps text_keeps, rereads_of_codec rfl tags ?_,
    rereads_of_keeps text_exact.optional_keeps, rereads_of_keeps (flag_exact.orDefault_keeps _),
    rereads_of_codec (instant_keeps era) instant_rereads fun _ => List.Subset.refl _,
    List.forall_mem_nil _⟩
  simp [List.subset_def]

/-- The fields of approval counters are independent of each other. -/
theorem TaskCounts.schema_lawful : TaskCounts.schema.Lawful where
  distinct := by decide
  faithful := by simp [TaskCounts.schema, given]
  apart := by simp [TaskCounts.schema, given, Apart]
  ext := by
    intro record other same
    cases record
    cases other
    simpa [TaskCounts.schema, given] using same

/-- The fields of approval counters keep what they read. -/
theorem TaskCounts.fields_reread {instants : TaskCounts → List (Option Instant)} :
    ∀ field ∈ TaskCounts.schema.fields, field.Rereads TaskCounts.schema.blank instants := by
  -- Counters hold no timestamps, so it does not matter which are listed.
  simp only [TaskCounts.schema, List.forall_mem_cons]
  exact ⟨rereads_of_keeps text_exact.optional_keeps, rereads_of_keeps count_exact.optional_keeps,
    rereads_of_keeps count_exact.optional_keeps, List.forall_mem_nil _⟩

/-! ## Snapshots -/

/-- The fields of a snapshot are independent of each other. -/
theorem Snapshot.schema_lawful : Snapshot.schema.Lawful where
  distinct := by decide
  faithful := by simp [Snapshot.schema, needed, given]
  apart := by simp [Snapshot.schema, needed, given, Apart]
  ext := by
    intro record other same
    cases record
    cases other
    simpa [Snapshot.schema, needed, given] using same

/-- The timestamps of all records of a snapshot. -/
def Snapshot.instants (snapshot : Snapshot) : List (Option Instant) :=
  snapshot.board.instants ++ snapshot.tasks.flatMap Task.instants ++
    snapshot.agents.flatMap Agent.instants ++ snapshot.approvals.flatMap Approval.instants ++
      snapshot.chatMessages.flatMap ChatMessage.instants

/-- The fields of a snapshot keep what they read. -/
theorem Snapshot.fields_reread : ∀ field ∈ Snapshot.schema.fields,
    field.Rereads Snapshot.schema.blank Snapshot.instants := by
  have board := Board.schema_lawful.rereads Board.fields_reread
  have messages := ChatMessage.schema_lawful.rereads ChatMessage.fields_reread
  -- A snapshot starts from the blank board, which each of its fields keeps.
  have blank : Board.schema.codec.Keeps Board.schema.blank :=
    Board.schema_lawful.keeps fun field member => (Board.fields_reread field member).default
  simp only [Snapshot.schema, List.forall_mem_cons]
  refine ⟨rereads_of_codec blank board ?_, rereads_of_codec rfl Task.rereads.orEmpty ?_,
    rereads_of_codec rfl Agent.rereads.orEmpty ?_, rereads_of_codec rfl Approval.rereads.orEmpty ?_,
    rereads_of_codec rfl messages.orEmpty ?_, rereads_of_keeps (count_exact.orDefault_keeps _),
    List.forall_mem_nil _⟩
  -- The timestamps of each part are listed among those of the snapshot.
  all_goals
    intro snapshot timestamp held
    simp only [instants, List.mem_append]
    tauto

/-! ## All records -/

/-- The kinds of record that a board is made of, each with the timestamps of its records. -/
inductive Recorded : {ε : Type} → Schema ε → (ε → List (Option Instant)) → Prop where
  | board : Recorded Board.schema Board.instants
  | task : Recorded Task.schema Task.instants
  | agent : Recorded Agent.schema Agent.instants
  | comment : Recorded TaskComment.schema TaskComment.instants
  | approval : Recorded Approval.schema Approval.instants
  | message : Recorded ChatMessage.schema ChatMessage.instants
  | counts : Recorded TaskCounts.schema fun _ => []
  | snapshot : Recorded Snapshot.schema Snapshot.instants

section Recorded

variable {ε : Type} {schema : Schema ε} {instants : ε → List (Option Instant)}

/-- Records of each kind are kept as they are read. -/
theorem Recorded.rereads (recorded : Recorded schema instants) :
    schema.codec.Rereads instants := by
  -- Patched records are known to be faithful, and the others are kept field by field.
  cases recorded with
  | board => exact Board.schema_lawful.rereads Board.fields_reread
  | task => exact Task.rereads
  | agent => exact Agent.rereads
  | comment => exact TaskComment.schema_lawful.rereads TaskComment.fields_reread
  | approval => exact Approval.rereads
  | message => exact ChatMessage.schema_lawful.rereads ChatMessage.fields_reread
  | counts => exact TaskCounts.schema_lawful.rereads TaskCounts.fields_reread
  | snapshot => exact Snapshot.schema_lawful.rereads Snapshot.fields_reread

/--
A record that was read from JSON is read again from what is written of it.

This holds of every kind of record, however it was given: with its fields by key or by position,
with nulls, with fields left out, with names of choices as objects, with times in any form that is
read. All that is asked is that the times it holds are in years of four digits; the numbers of JSON
are all finite.
-/
theorem Recorded.decode_encode (recorded : Recorded schema instants) {source : Json} {record : ε}
    (finite : source.isFinite) (decoded : schema.decode source = .ok record)
    (era : Instant.AllInEra (instants record)) :
    schema.decode (schema.encode record) = .ok record :=
  Codec.decode_eq_ok.mpr (recorded.rereads finite (Codec.decode_eq_ok.mp decoded) era)

/-- A record that a text holds is read again; no text has a number that is not finite. -/
theorem Recorded.decode_encode_of_parse (recorded : Recorded schema instants) {text : String}
    {record : ε} (parsed : schema.codec.parse text = .ok record)
    (era : Instant.AllInEra (instants record)) :
    schema.decode (schema.encode record) = .ok record := by
  obtain ⟨source, finite, decoded⟩ := Codec.exists_of_parse parsed
  -- A numeral beyond the range of numbers is refused, so what was read is finite.
  exact Codec.decode_eq_ok.mpr (recorded.rereads finite decoded era)

end Recorded

/-- A snapshot by position, with nulls, a choice as an object, and times given in other zones. -/
def terseText : String :=
  "[[\"b\",\"Ops\",null,null,null,\"2024-02-01T02:00:00+02:00\"]," ++
    "[\x7b\"id\":\"t\",\"status\":\x7b\"review\":null\x7d,\"priority\":null," ++
    "\"due_at\":\"soon\",\"approvals_count\":2\x7d],null," ++
    "[\x7b\"id\":\"p\",\"confidence\":1,\"payload\":\x7b\"hours\":[1.5]\x7d," ++
    "\"created_at\":\"2024-02-01T23:59:60.25\"\x7d]]"

/-- The JSON of the terse snapshot, in which keys are in order. -/
def tersely : Json :=
  .array [
    .array [.string "b", .string "Ops", .null, .null, .null, .string "2024-02-01T02:00:00+02:00"],
    .array [.object [("approvals_count", .ofNat 2), ("due_at", .string "soon"),
      ("id", .string "t"), ("priority", .null), ("status", .object [("review", .null)])]],
    .null,
    .array [.object [("confidence", .ofNat 1), ("created_at", .string "2024-02-01T23:59:60.25"),
      ("id", .string "p"),
      ("payload", .object [("hours", .array [.number (.real ⟨4609434218613702656⟩)])])]]]

/-- The terse snapshot as it is read. -/
def tersed : Snapshot where
  board := { Board.schema.blank with
    id := "b", name := "Ops", createdAt := some ⟨1706745600, 0, by decide⟩ }
  tasks := [{ Task.schema.blank with id := "t", status := .review, approvalsCount := 2 }]
  agents := []
  approvals := [{ Approval.schema.blank with
    id := "p", confidence := .ofInt 1
    payload := some [("hours", .array [.number (.real ⟨4609434218613702656⟩)])]
    createdAt := ⟨1706831999, 1250000000, by decide⟩ }]
  chatMessages := []
  pendingApprovalsCount := 0

/-- The terse snapshot is read again from what is written of it, which is another text. -/
theorem Recorded.decode_encode_tersely :
    Json.read Snapshot.schema.codec.shape terseText = .ok tersely ∧
      Snapshot.schema.decode tersely = .ok tersed ∧ Snapshot.schema.encode tersed ≠ tersely ∧
      Snapshot.schema.decode (Snapshot.schema.encode tersed) = .ok tersed := by
  have reads : Json.read Snapshot.schema.codec.shape terseText = .ok tersely := by decide +kernel
  have decoded : Snapshot.schema.decode tersely = .ok tersed := by decide +kernel
  -- The leap second and the time given in another zone are both in 2024.
  have era : Instant.AllInEra tersed.instants := by decide
  exact ⟨reads, decoded, nofun,
    Recorded.snapshot.decode_encode (Json.isFinite_of_read reads) decoded era⟩

end LiveBoard

import LiveBoard.Board.View
import Mathlib.Data.List.Nodup
import Mathlib.Data.Prod.Lex
import Mathlib.Data.String.Basic

/-!
Agents are listed by what their labels say, and then by their names.

The rank by which agents are sorted and the label that is shown of them are told apart by the same
tests, so the labels read as four blocks. Agents that differ in their block or their name are listed
in one order only, however they are held.
-/

namespace LiveBoard

/-! ## The order of the list -/

/-- A name goes no later than another: by their lower case, and then as they are. -/
def NameLe (a b : String) : Prop :=
  Text.lower a < Text.lower b ∨ Text.lower a = Text.lower b ∧ a ≤ b

/-- Names in ASCII are compared by the letters of the alphabet, the case of which comes last. -/
theorem nameLe_of_ascii {a b : String} (first : ∀ c ∈ a.toList, c.toNat < 0x80)
    (second : ∀ c ∈ b.toList, c.toNat < 0x80) :
    NameLe a b ↔ a.toLower < b.toLower ∨ a.toLower = b.toLower ∧ a ≤ b := by
  rw [NameLe, Text.lower_of_ascii first, Text.lower_of_ascii second]

namespace AgentRank

/-- A rank is known by its place. -/
theorem place_injective : Function.Injective place := by
  intro a b same
  -- Four ranks and four places: each pair either is one rank or has two places.
  cases a <;> cases b <;> first | rfl | cases same

section Blocks

variable {ε : Type} (rankOf : ε → AgentRank)

/-- The members of a rank, in order. -/
def block (rank : AgentRank) (members : List ε) : List ε :=
  members.filter (rankOf · = rank)

/-- A list in which ranks never go up again is its four blocks, one after the other. -/
theorem eq_blocks {members : List ε}
    (sorted : members.Pairwise fun a b => (rankOf a).place ≤ (rankOf b).place) :
    members = block rankOf .working members ++ block rankOf .active members ++
      block rankOf .provisioning members ++ block rankOf .offline members := by
  -- Along the list; the rank of the first member decides which blocks are empty before its own.
  induction members with
  | nil => rfl
  | cons first members ih =>
    obtain ⟨behind, sorted⟩ := List.pairwise_cons.mp sorted
    have whole := ih sorted
    -- Behind the first member there is nobody of a rank above its own.
    have empty : ∀ rank : AgentRank, rank.place < (rankOf first).place →
        members.filter (rankOf · = rank) = [] := by
      intro rank above
      refine List.filter_eq_nil_iff.mpr fun member inside same => ?_
      have lower := behind member inside
      rw [of_decide_eq_true same] at lower
      omega
    cases own : rankOf first with
    | working => simpa [block, own] using whole
    | active =>
      have working := empty .working (by simp [own, place])
      simpa [block, own, working] using whole
    | provisioning =>
      have working := empty .working (by simp [own, place])
      have active := empty .active (by simp [own, place])
      simpa [block, own, working, active] using whole
    | offline =>
      have working := empty .working (by simp [own, place])
      have active := empty .active (by simp [own, place])
      have provisioning := empty .provisioning (by simp [own, place])
      simpa [block, own, working, active, provisioning] using whole

end Blocks

end AgentRank

namespace BoardState

/-- Keys are compared part by part. -/
theorem keyLe_iff {a b : Nat × String × String} :
    keyLe a b ↔ toLex (a.1, toLex a.2) ≤ toLex (b.1, toLex b.2) := by
  simp [keyLe, Prod.Lex.toLex_le_toLex]

variable {state : BoardState}

/-- An agent is listed before those of a lower rank, and by its name among those of its own. -/
theorem agentLe_iff {a b : Agent} :
    state.agentLe a b ↔ (state.agentRank a).place < (state.agentRank b).place ∨
      state.agentRank a = state.agentRank b ∧ NameLe a.name b.name := by
  -- Keys hold the places of ranks, and no two ranks have one place.
  rw [← AgentRank.place_injective.eq_iff]
  simp only [agentLe, keyLe, Bool.or_eq_true, Bool.and_eq_true, decide_eq_true_eq]
  exact .rfl

/-- Every agent is listed no later than itself. -/
theorem agentLe_refl (a : Agent) : state.agentLe a a :=
  keyLe_iff.mpr (le_refl _)

/-- Of two agents, one is listed no later than the other. -/
theorem agentLe_total (a b : Agent) : state.agentLe a b ∨ state.agentLe b a := by
  -- Keys are ordered part by part, and each part is ordered in whole.
  simp only [agentLe, keyLe_iff]
  exact le_total ..

/-- The order in which agents are listed is transitive. -/
theorem agentLe_trans {a b c : Agent} (first : state.agentLe a b) (second : state.agentLe b c) :
    state.agentLe a c := by
  simp only [agentLe, keyLe_iff] at *
  exact le_trans first second

/-- Agents that are listed no later than each other have one label and one name. -/
theorem agentLe_antisymm {a b : Agent} (first : state.agentLe a b) (second : state.agentLe b a) :
    (state.agentLabel a, a.name) = (state.agentLabel b, b.name) := by
  -- The keys of both are the same, since keys are ordered part by part.
  have same : state.agentKey a = state.agentKey b :=
    Prod.ext_iff.mpr (by simpa using le_antisymm (keyLe_iff.mp first) (keyLe_iff.mp second))
  have rank : state.agentRank a = state.agentRank b :=
    AgentRank.place_injective (congrArg (·.1) same)
  have name : a.name = b.name := congrArg (·.2.2) same
  rw [agentLabel_eq_label, agentLabel_eq_label, rank, name]

/-- The agents are listed in order. -/
theorem pairwise_sortedAgents (state : BoardState) :
    state.sortedAgents.Pairwise fun a b => state.agentLe a b := by
  have trans : ∀ a b c, state.agentLe a b → state.agentLe b c → state.agentLe a c :=
    fun _ _ _ => agentLe_trans
  have total : ∀ a b, state.agentLe a b || state.agentLe b a := by
    simpa using agentLe_total
  rw [sortedAgents]
  -- A merge sort puts in order whatever is compared transitively and totally.
  exact List.pairwise_mergeSort trans total state.agents

/-- Agents that differ in label or name are listed in the only order in which they can be. -/
theorem sortedAgents_eq {listed : List Agent}
    (apart : (state.agents.map fun agent => (state.agentLabel agent, agent.name)).Nodup)
    (same : listed.Perm state.agents) (sorted : listed.Pairwise fun a b => state.agentLe a b) :
    state.sortedAgents = listed := by
  -- No two agents tie, so a list of them can be in order in one way only.
  have all : state.sortedAgents.Perm state.agents := List.mergeSort_perm ..
  refine (all.trans same.symm).eq_of_pairwise ?_ state.pairwise_sortedAgents sorted
  intro a b first second before after
  exact List.inj_on_of_nodup_map apart (all.subset first) (same.subset second)
    (agentLe_antisymm before after)

/-- The agents of a rank, in the order in which they are listed. -/
def listedAs (state : BoardState) (rank : AgentRank) : List Agent :=
  AgentRank.block state.agentRank rank state.sortedAgents

/-- The agents of a rank have its label. -/
theorem agentLabel_of_mem_listedAs {rank : AgentRank} :
    ∀ agent ∈ state.listedAs rank, state.agentLabel agent = rank.label := by
  intro agent member
  have own : state.agentRank agent = rank := by simpa using (List.mem_filter.mp member).2
  rw [agentLabel_eq_label, own]

/-- The agents of a rank are listed by their names. -/
theorem pairwise_listedAs (rank : AgentRank) :
    (state.listedAs rank).Pairwise fun a b => NameLe a.name b.name := by
  refine (state.pairwise_sortedAgents.filter _).imp_of_mem ?_
  intro a b first second before
  -- Neither of two agents of one rank is above the other, so their names decide.
  have own : state.agentRank a = rank := by simpa using (List.mem_filter.mp first).2
  have also : state.agentRank b = rank := by simpa using (List.mem_filter.mp second).2
  rcases agentLe_iff.mp before with below | ⟨-, named⟩
  · rw [own, also] at below
    omega
  · exact named

/-- The list of agents is its four blocks, one after the other. -/
theorem sortedAgents_eq_blocks (state : BoardState) :
    state.sortedAgents = state.listedAs .working ++ state.listedAs .active ++
      state.listedAs .provisioning ++ state.listedAs .offline := by
  refine AgentRank.eq_blocks state.agentRank (state.pairwise_sortedAgents.imp ?_)
  -- All that the blocks need is that ranks never go up again.
  intro a b before
  rcases agentLe_iff.mp before with below | ⟨same, -⟩
  · exact below.le
  · rw [same]

/--
Agents are listed by their labels, and then by their names.

All of them are listed, each as often as it is held. From the top, those come that are labelled as
working, then the active ones, those that are being provisioned, and those that are offline; in each
of these blocks names ascend by their lower case, and then as they are. The comparison behind it is
total and transitive, and where no two agents have one label and one name, the list does not depend
on the order in which the agents are held.
-/
theorem sortedAgents_by_label_and_name (state : BoardState) :
    state.sortedAgents.Perm state.agents ∧
    (∃ working active provisioning offline : List Agent,
      state.sortedAgents = working ++ active ++ provisioning ++ offline ∧
      (∀ agent ∈ working, state.agentLabel agent = "Working") ∧
      (∀ agent ∈ active, state.agentLabel agent = "Active") ∧
      (∀ agent ∈ provisioning, state.agentLabel agent = "Provisioning") ∧
      (∀ agent ∈ offline, state.agentLabel agent = "Offline") ∧
      ∀ block ∈ [working, active, provisioning, offline],
        block.Pairwise fun a b => NameLe a.name b.name) ∧
    ((∀ a, state.agentLe a a) ∧ (∀ a b, state.agentLe a b ∨ state.agentLe b a) ∧
      ∀ a b c, state.agentLe a b → state.agentLe b c → state.agentLe a c) ∧
    ((state.agents.map fun agent => (state.agentLabel agent, agent.name)).Nodup →
      ∀ others : List Agent, others.Perm state.agents →
        sortedAgents { state with agents := others } = state.sortedAgents) := by
  have order : (∀ a, state.agentLe a a) ∧ (∀ a b, state.agentLe a b ∨ state.agentLe b a) ∧
      ∀ a b c, state.agentLe a b → state.agentLe b c → state.agentLe a c :=
    ⟨agentLe_refl, agentLe_total, fun _ _ _ => agentLe_trans⟩
  refine ⟨List.mergeSort_perm .., ?_, order, ?_⟩
  · -- Each block is what is listed of one rank, and a rank has one label.
    refine ⟨_, _, _, _, state.sortedAgents_eq_blocks, agentLabel_of_mem_listedAs,
      agentLabel_of_mem_listedAs, agentLabel_of_mem_listedAs, agentLabel_of_mem_listedAs, ?_⟩
    simpa using ⟨pairwise_listedAs .working, pairwise_listedAs .active,
      pairwise_listedAs .provisioning, pairwise_listedAs .offline⟩
  · intro apart others same
    -- Neither ranks nor names go by how the agents are held.
    have sorted := pairwise_sortedAgents { state with agents := others }
    exact (sortedAgents_eq apart ((List.mergeSort_perm ..).trans same) sorted).symm

/-- An agent of a status, with one text for its name and its identifier. -/
def agentOf (name : String) (status : AgentStatus) : Agent :=
  { Agent.schema.blank with id := name, name := name, status := status }

/-- Agents of all labels, of which one that is offline works on the one task. -/
def sixAgents : BoardState :=
  { empty "b" with
    agents := [agentOf "Zed" .online, agentOf "Cal" .provisioning, agentOf "ann" .online,
      agentOf "Dex" .offline, agentOf "Eve" .updating, agentOf "Ann" .online]
    tasks := [{ Task.schema.blank with
      id := "t"
      status := .inProgress
      assignedAgentId := some "Dex" }] }

/--
Agents of all labels are listed alike from either end.

In the block of the active ones, a name stands in two cases side by side, and before a third one
that would come between them if names were compared as they are.
-/
theorem sortedAgents_by_label_and_name_sixAgents :
    (sixAgents.agents.map fun agent => (sixAgents.agentLabel agent, agent.name)).Nodup ∧
    sortedAgents { sixAgents with agents := sixAgents.agents.reverse } = sixAgents.sortedAgents ∧
    sixAgents.sortedAgents.map (fun agent => (sixAgents.agentLabel agent, agent.name)) =
      [("Working", "Dex"), ("Active", "Ann"), ("Active", "ann"), ("Active", "Zed"),
        ("Provisioning", "Cal"), ("Offline", "Eve")] ∧
    "Zed" < "ann" ∧ NameLe "ann" "Zed" := by
  obtain ⟨-, -, -, alike⟩ := sortedAgents_by_label_and_name sixAgents
  have apart : (sixAgents.agents.map fun agent =>
      (sixAgents.agentLabel agent, agent.name)).Nodup := by decide
  have named : NameLe "ann" "Zed" := by
    -- In lower case the first letters are apart by now, in the order of the alphabet.
    refine (nameLe_of_ascii (by simp) (by simp)).mpr (.inl ?_)
    rw [String.lt_iff_toList_lt, Text.toList_toLower, Text.toList_toLower]
    decide
  refine ⟨apart, alike apart _ (List.reverse_perm _), ?_, by decide, named⟩
  -- What is in order and holds the same agents is the list, so that nothing need be sorted here.
  let listed := [agentOf "Dex" .offline, agentOf "Ann" .online, agentOf "ann" .online,
    agentOf "Zed" .online, agentOf "Cal" .provisioning, agentOf "Eve" .updating]
  have same : listed.Perm sixAgents.agents := by decide
  have sorted : listed.Pairwise fun a b => sixAgents.agentLe a b := by decide
  rw [sortedAgents_eq apart same sorted]
  rfl

end BoardState

end LiveBoard

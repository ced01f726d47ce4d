import LiveBoard.Json.Document
import LiveBoard.Proofs.Json.Finite

/-!
The numbers of a text that is read are finite, whatever the shape that it is read against.

What a reading returns is followed from its parts to the whole: a part that fails returns nothing,
and what lists and objects collect stays finite with each item and member that is added.
-/

namespace LiveBoard

namespace Binary64

/-- A finite number that is scaled by a power of ten is finite, or is no number. -/
theorem isFinite_of_scaleByTen? {start x : Binary64} {exponent : Int} (finite : start.isFinite)
    (scaled : start.scaleByTen? exponent = some x) : x.isFinite := by
  -- Every step of scaling rounds to the number nearest to a ratio.
  unfold scaleByTen? at scaled
  split at scaled
  · obtain rfl := Option.some.inj scaled
    exact finite
  · split at scaled
    · cases scaled
    · split at scaled
      · exact isFinite_ofRatio? scaled
      · split at scaled
        · exact isFinite_ofRatio? scaled
        · obtain ⟨reduced, divided, rest⟩ := Option.bind_eq_some_iff.mp scaled
          split at rest
          · obtain rfl := Option.some.inj rest
            exact isFinite_ofRatio? divided
          · split at rest
            · exact isFinite_ofRatio? rest
            · obtain rfl := Option.some.inj rest
              decide

end Binary64

namespace Json

namespace Reading

/-- The number that a numeral stands for is finite. -/
theorem isFinite_of_value? {numeral : Numeral} {n : JsonNumber} (read : numeral.value? = some n) :
    (Json.number n).isFinite := by
  -- The number without its sign is an integer, or a significand that is scaled.
  have scaled {x : Binary64} {start : Nat} {exponent : Int}
      (scaled : (Binary64.ofInt start).scaleByTen? exponent = some x) : x.isFinite :=
    Binary64.isFinite_of_scaleByTen? (Binary64.isFinite_ofInt _) scaled
  unfold Numeral.value? at read
  cases sign : numeral.negative with
  | false =>
    simp only [sign, Bool.false_eq_true, if_false] at read
    split at read
    · obtain rfl := Option.some.inj read
      rfl
    · obtain ⟨x, near, rfl⟩ := Option.map_eq_some_iff.mp read
      exact scaled near
  | true =>
    simp only [sign, if_true] at read
    split at read
    · obtain rfl := Option.some.inj read
      rfl
    · obtain ⟨x, near, rfl⟩ := Option.map_eq_some_iff.mp read
      simpa only [isFinite, Binary64.isFinite, Binary64.magnitudeBits_neg] using scaled near

/-! ## What readings return -/

/-- Whatever a reading returns satisfies a predicate. -/
def Yields {α : Type} (holds : α → Prop) (reading : Reading α) : Prop :=
  ∀ cursor value rest, reading.run cursor = .ok (value, rest) → holds value

section Yields

variable {α β : Type} {former : α → Prop} {holds : β → Prop}

/-- A reading that only returns a value yields what holds of the value. -/
theorem yields_pure {value : β} (held : holds value) : (pure value : Reading β).Yields holds := by
  intro cursor other rest returned
  cases returned
  exact held

/-- A reading yields what holds of all that can follow on its first part. -/
theorem Yields.bind {reading : Reading α} {next : α → Reading β} (first : reading.Yields former)
    (later : ∀ value, former value → (next value).Yields holds) :
    (reading >>= next).Yields holds := by
  -- A reading that returns something got through its first part.
  intro cursor value rest returned
  simp only [StateT.run_bind] at returned
  cases step : reading.run cursor with
  | error fault => simp [step, Bind.bind, Except.bind] at returned
  | ok between =>
    rw [step] at returned
    exact later between.1 (first _ _ _ step) _ _ _ returned

/-- What the first part of a reading returns may be of no matter. -/
theorem yields_bind {reading : Reading α} {next : α → Reading β}
    (later : ∀ value, (next value).Yields holds) : (reading >>= next).Yields holds :=
  @Yields.bind α β (fun _ => True) holds reading next (fun _ _ _ _ => trivial)
    fun value _ => later value

/-- A fault yields nothing. -/
theorem yields_throw (fault : ReadFault) : (throw fault : Reading β).Yields holds := nofun

/-- A fault at the place reached yields nothing. -/
theorem yields_failHere (cause : SyntaxFault) : (failHere cause : Reading β).Yields holds :=
  yields_bind fun _ => yields_throw _

/-- A fault behind the next byte yields nothing. -/
theorem yields_failAhead (cause : SyntaxFault) : (failAhead cause : Reading β).Yields holds :=
  yields_bind fun _ => yields_throw _

/-- A refused value yields nothing. -/
theorem yields_refuse (cause : Fault) : (refuse cause : Reading β).Yields holds :=
  yields_bind fun _ => yields_throw _

/-- A value of the wrong type yields nothing. -/
theorem yields_wrongType (expected : String) : (wrongType expected : Reading β).Yields holds := by
  -- A scalar is read to its end first, and is refused all the same.
  unfold wrongType
  refine yields_bind fun token => ?_
  split
  · exact yields_failAhead _
  · exact yields_bind fun _ => yields_bind fun _ => yields_refuse _
  · exact yields_bind fun _ => yields_bind fun _ => yields_refuse _
  · exact yields_bind fun _ => yields_bind fun _ => yields_refuse _
  · exact yields_bind fun _ => yields_bind fun _ => yields_refuse _
  · exact yields_refuse _
  · exact yields_refuse _
  · split
    · exact yields_bind fun _ => yields_refuse _
    · exact yields_failAhead _

/-- A reading of which all values but those of a kind are refused yields what holds of the kind. -/
theorem yields_orWrongType {kind : Prop} [Decidable kind] {expected : String}
    {reading : Reading β} (held : reading.Yields holds) :
    (if kind then reading else wrongType expected).Yields holds := by
  split
  · exact held
  · exact yields_wrongType expected

/-- A refused record yields nothing. -/
theorem yields_refuseRecord (close : Char) (cause : Fault) :
    (refuseRecord close cause : Reading β).Yields holds := by
  -- Whatever is passed over on the way, the record is refused in the end.
  have passed : (do
      if close = ']' ∧ (← peek?) = some ',' then
        advance
        let _ ← peekToken?
      refuse cause : Reading β).Yields holds := by
    refine yields_bind fun token => ?_
    dsimp only
    split
    · exact yields_bind fun _ => yields_bind fun _ => yields_refuse _
    · exact yields_refuse _
  unfold refuseRecord
  refine yields_bind fun token => ?_
  dsimp only
  split
  · split
    · exact yields_bind fun _ => passed
    · exact passed
  · exact passed

end Yields

/-- A number that is read is finite. -/
theorem yields_number : number.Yields fun n => (Json.number n).isFinite := by
  unfold number
  refine yields_bind fun numeral => ?_
  split
  · rename_i n read
    exact yields_pure (isFinite_of_value? read)
  · exact yields_failHere _

/-! ## Values of any shape -/

/-- Values that are read without regard to a shape are finite, after so many steps. -/
structure AnythingFinite (steps : Nat) : Prop where
  value : ∀ depth, (anything steps depth).Yields (·.isFinite)
  items : ∀ depth first done, itemsFinite done →
    (anyItems steps depth first done).Yields (itemsFinite ·)
  members : ∀ depth first done, membersFinite done →
    (anyMembers steps depth first done).Yields (membersFinite ·)

/-- Items that were put in front of each other are finite when they are turned around. -/
theorem yields_reverse {done : List Json} (finite : itemsFinite done) :
    (pure done.reverse : Reading (List Json)).Yields (itemsFinite ·) := by
  refine yields_pure (itemsFinite_iff.mpr fun item member => ?_)
  exact itemsFinite_iff.mp finite item (List.mem_reverse.mp member)

section Anything

variable {steps : Nat} (ih : AnythingFinite steps)
include ih

/-- A value that takes one step more is finite when its items and members are. -/
theorem AnythingFinite.value_succ (depth : Nat) :
    (anything (steps + 1) depth).Yields (·.isFinite) := by
  unfold anything
  refine yields_bind fun token => ?_
  -- The first character tells which kind of value is read.
  split
  · exact yields_failAhead _
  · exact yields_bind fun _ => yields_bind fun _ => yields_pure rfl
  · exact yields_bind fun _ => yields_bind fun _ => yields_pure rfl
  · exact yields_bind fun _ => yields_bind fun _ => yields_pure rfl
  · exact yields_bind fun _ => yields_bind fun _ => yields_pure rfl
  · -- A list starts from no items, and what it is left with are finite ones.
    exact yields_bind fun _ => (ih.items _ _ _ rfl).bind fun _ finite =>
      yields_bind fun _ => yields_pure finite
  · exact yields_bind fun _ => (ih.members _ _ _ rfl).bind fun _ finite =>
      yields_bind fun _ => yields_pure finite
  · split
    · -- Anything else has to be a number.
      exact yields_number.bind fun _ finite => yields_pure finite
    · exact yields_failAhead _

/-- One item more is put in front of finite ones. -/
theorem AnythingFinite.items_succ (depth : Nat) (first : Bool) (done : List Json)
    (finite : itemsFinite done) :
    (anyItems (steps + 1) depth first done).Yields (itemsFinite ·) := by
  unfold anyItems
  -- Either there is one item more, or the list ends with those that were read.
  refine yields_bind fun more => ?_
  split
  · refine (ih.value _).bind fun item held => ih.items _ _ _ ?_
    simp [itemsFinite, held, finite]
  · exact yields_reverse finite

/-- One member more is put among finite ones. -/
theorem AnythingFinite.members_succ (depth : Nat) (first : Bool) (done : Members)
    (finite : membersFinite done) :
    (anyMembers (steps + 1) depth first done).Yields (membersFinite ·) := by
  unfold anyMembers
  -- Either there is one member more, with a key and a value, or the object ends.
  refine yields_bind fun more => ?_
  split
  · refine yields_bind fun _ => yields_bind fun key => yields_bind fun _ => ?_
    exact (ih.value _).bind fun value held =>
      ih.members _ _ _ (membersFinite_insert key finite held)
  · exact yields_pure finite

end Anything

/-- Values that are read without regard to a shape are finite. -/
theorem anythingFinite (steps : Nat) : AnythingFinite steps := by
  induction steps with
  | zero =>
    -- Without a step left nothing is read.
    refine ⟨fun depth => ?_, fun depth first done _ => ?_, fun depth first done _ => ?_⟩
    · rw [anything]
      exact yields_failHere _
    · rw [anyItems]
      exact yields_failHere _
    · rw [anyMembers]
      exact yields_failHere _
  | succ steps ih => exact ⟨ih.value_succ, ih.items_succ, ih.members_succ⟩

/-! ## Values of a shape -/

/-- Values that are read against a shape are finite, after so many steps. -/
structure ShapedFinite (steps : Nat) : Prop where
  value : ∀ depth shape, (shaped steps depth shape).Yields (·.isFinite)
  items : ∀ depth item first done, itemsFinite done →
    (shapedItems steps depth item first done).Yields (itemsFinite ·)
  positions : ∀ depth name size index fields done, itemsFinite done →
    (shapedPositions steps depth name size index fields done).Yields (itemsFinite ·)
  members : ∀ depth fields first done, membersFinite done →
    (shapedMembers steps depth fields first done).Yields (membersFinite ·)

/-- A name of a choice is no number, and neither is the null that may stand behind it. -/
theorem yields_choice (steps depth : Nat) (names : List String) :
    (shaped (steps + 1) depth (.choice names)).Yields (·.isFinite) := by
  unfold shaped
  refine yields_bind fun token => ?_
  dsimp only
  split
  · exact yields_bind fun _ => yields_pure rfl
  · -- The name may stand as the only key of an object, with null for its value.
    refine yields_bind fun _ => yields_bind fun name => yields_bind fun _ => ?_
    refine yields_bind fun token => ?_
    split
    · refine yields_bind fun _ => yields_bind fun _ => yields_bind fun _ => ?_
      split <;> exact yields_bind fun _ => yields_pure rfl
    · refine yields_bind fun _ => yields_bind fun _ => ?_
      split <;> exact yields_bind fun _ => yields_pure rfl
  · exact yields_failAhead _
  · exact yields_failAhead _

section Shaped

variable {steps : Nat} (ih : ShapedFinite steps)
include ih

/-- A record is finite when its positions and its members are. -/
theorem ShapedFinite.record_succ (depth : Nat) (name : String)
    (fields : List (String × Bool × Shape)) :
    (shaped (steps + 1) depth (.record name fields)).Yields (·.isFinite) := by
  unfold shaped
  refine yields_bind fun token => ?_
  dsimp only
  split
  · exact yields_bind fun _ => (ih.positions _ _ _ _ _ _ rfl).bind fun _ finite =>
      yields_pure finite
  · refine yields_bind fun _ => (ih.members _ _ _ _ rfl).bind fun _ finite => ?_
    -- What is missing is known only after the members, and refuses them all.
    split
    · exact yields_refuseRecord _ _
    · exact yields_bind fun _ => yields_pure finite
  · exact yields_wrongType _

/-- A value that takes one step more is finite, whatever its shape. -/
theorem ShapedFinite.value_succ (depth : Nat) (shape : Shape) :
    (shaped (steps + 1) depth shape).Yields (·.isFinite) := by
  -- A shape either has a value read of its own kind, or refuses what is there.
  cases shape with
  | choice names => exact yields_choice steps depth names
  | record name fields => exact ih.record_succ depth name fields
  | anything =>
    unfold shaped
    exact yields_bind fun _ => (anythingFinite _).value _
  | nullable inner =>
    unfold shaped
    -- Null is read for itself, and anything else as the inner shape says.
    refine yields_bind fun token => ?_
    dsimp only
    split
    · exact yields_bind fun _ => yields_bind fun _ => yields_pure rfl
    · exact ih.value _ _
  | text =>
    unfold shaped
    exact yields_bind fun _ =>
      yields_orWrongType (yields_bind fun _ => yields_bind fun _ => yields_pure rfl)
  | checkedText refusal =>
    unfold shaped
    exact yields_bind fun _ =>
      yields_orWrongType (yields_bind fun _ => yields_bind fun _ => yields_pure rfl)
  | flag =>
    unfold shaped
    exact yields_bind fun _ => yields_orWrongType ((anythingFinite _).value _)
  | real =>
    unfold shaped
    exact yields_bind fun _ =>
      yields_orWrongType (yields_number.bind fun _ finite => yields_pure finite)
  | count =>
    unfold shaped
    refine yields_bind fun _ => yields_orWrongType (yields_number.bind fun n finite => ?_)
    -- A number that is out of range is read first, and refused then.
    split
    · exact yields_refuse _
    · exact yields_pure finite
  | map =>
    unfold shaped
    exact yields_bind fun _ => yields_orWrongType ((anythingFinite _).value _)
  | list item =>
    unfold shaped
    exact yields_bind fun _ => yields_orWrongType <| yields_bind fun _ =>
      (ih.items _ _ _ _ rfl).bind fun _ finite => yields_bind fun _ => yields_pure finite

/-- One item more of a list is put in front of finite ones. -/
theorem ShapedFinite.items_succ (depth : Nat) (item : Shape) (first : Bool) (done : List Json)
    (finite : itemsFinite done) :
    (shapedItems (steps + 1) depth item first done).Yields (itemsFinite ·) := by
  unfold shapedItems
  -- As for items of any shape, but each is read against the shape of the list.
  refine yields_bind fun more => ?_
  split
  · refine (ih.value _ _).bind fun value held => ih.items _ _ _ _ ?_
    simp [itemsFinite, held, finite]
  · exact yields_reverse finite

/-- One field more of a record by position is put in front of finite ones. -/
theorem ShapedFinite.positions_succ (depth : Nat) (name : String) (size index : Nat)
    (fields : List (String × Bool × Shape)) (done : List Json) (finite : itemsFinite done) :
    (shapedPositions (steps + 1) depth name size index fields done).Yields (itemsFinite ·) := by
  unfold shapedPositions
  cases fields with
  | nil =>
    -- Nothing is read any more but the bracket.
    have closed := yields_reverse finite
    refine yields_bind fun token => ?_
    dsimp only
    split
    · exact yields_bind fun _ => closed
    · exact yields_bind fun _ => closed
    · refine yields_bind fun _ => yields_bind fun _ => ?_
      split <;> exact yields_bind fun _ => closed
    · exact yields_bind fun _ => closed
  | cons field fields =>
    obtain ⟨key, required, shape⟩ := field
    refine yields_bind fun more => ?_
    split
    · refine (ih.value _ _).bind fun value held => ?_
      have rest := ih.positions depth name size (index + 1) fields (value :: done)
        (by simp [itemsFinite, held, finite])
      -- A text that is checked is refused, or read on from as any other value.
      dsimp only
      split
      · split
        · exact yields_bind fun _ => rest
        · exact rest
      · exact rest
    · split
      · exact yields_refuseRecord _ _
      · exact yields_bind fun _ => yields_reverse finite

/-- One member more of a record is put among finite ones. -/
theorem ShapedFinite.members_succ (depth : Nat) (fields : List (String × Bool × Shape))
    (first : Bool) (done : Members) (finite : membersFinite done) :
    (shapedMembers (steps + 1) depth fields first done).Yields (membersFinite ·) := by
  unfold shapedMembers
  -- A key may be listed or not, and if listed it may have come before.
  refine yields_bind fun more => ?_
  split
  · refine yields_bind fun _ => yields_bind fun key => ?_
    split
    · -- Nothing is made of a member that is not listed.
      exact yields_bind fun _ => yields_bind fun _ => ih.members _ _ _ _ finite
    · split
      · exact yields_refuseRecord _ _
      · refine yields_bind fun _ => (ih.value _ _).bind fun value held => ?_
        have rest := ih.members depth fields false _ (membersFinite_insert key finite held)
        -- A text that is checked is refused, or read on from as any other value.
        dsimp only
        split
        · split
          · exact yields_bind fun _ => rest
          · exact rest
        · exact rest
  · exact yields_pure finite

end Shaped

/-- Values that are read against a shape are finite. -/
theorem shapedFinite (steps : Nat) : ShapedFinite steps := by
  induction steps with
  | zero =>
    -- Without a step left nothing is read.
    refine ⟨fun depth shape => ?_, fun depth item first done _ => ?_,
      fun depth name size index fields done _ => ?_, fun depth fields first done _ => ?_⟩
    · rw [shaped]
      exact yields_failHere _
    · rw [shapedItems]
      exact yields_failHere _
    · rw [shapedPositions]
      exact yields_failHere _
    · rw [shapedMembers]
      exact yields_failHere _
  | succ steps ih => exact ⟨ih.value_succ, ih.items_succ, ih.positions_succ, ih.members_succ⟩

end Reading

/-- The numbers of a text that is read against a shape are finite. -/
theorem isFinite_of_read {shape : Shape} {text : String} {json : Json}
    (reads : read shape text = .ok json) : json.isFinite := by
  simp only [read, Except.map] at reads
  -- The reading has to have come to an end, with the value and whatever stands behind it.
  split at reads
  · cases reads
  rename_i outcome ran
  obtain rfl := Except.ok.inj reads
  refine @Reading.Yields.bind _ _ _ (fun json => json.isFinite) _ _
    ((Reading.shapedFinite _).value _ _) (fun value finite => ?_) _ _ _ ran
  -- Behind the value there may be nothing but white space.
  refine Reading.yields_bind fun token => ?_
  split
  · exact Reading.yields_pure finite
  · exact Reading.yields_failAhead _

end Json

/-- What a text holds is decoded from a value with finite numbers. -/
theorem Codec.exists_of_parse {α : Type} {codec : Codec α} {text : String} {decoded : α}
    (parsed : codec.parse text = .ok decoded) :
    ∃ value, value.isFinite ∧ codec.decode? value = some decoded := by
  unfold parse at parsed
  -- The text is read first, and what has been read is decoded then.
  cases reads : Json.read codec.shape text with
  | error fault => simp [reads, Bind.bind, Except.bind] at parsed
  | ok value =>
    refine ⟨value, Json.isFinite_of_read reads, ?_⟩
    simp only [reads, Bind.bind, Except.bind] at parsed
    split at parsed
    · rename_i found
      rw [found, Except.ok.inj parsed]
    · cases parsed

end LiveBoard

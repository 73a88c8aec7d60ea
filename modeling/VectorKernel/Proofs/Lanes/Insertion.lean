import VectorKernel.Proofs.Success
import VectorKernel.Proofs.Text

/-!
# Insertion of lanes

C vectors that are made of scalars, as terms with a text and a value for each lane. Where
C has no constructor of vectors, the lowering prints the term that inserts the scalars into
zeros one by one, and what a constructor would have put into the lanes is in them.

A text can be read as one such term at most if the scalars are arguments and the
instructions have plain names. The text alone then determines the lanes.
-/

namespace VectorKernel.Lanes

/-- A C vector made of scalars that are given as texts. -/
inductive Construction where
  /-- A scalar in every lane. -/
  | splat (name scalar : String)
  /-- A vector with one lane replaced. -/
  | insert (name value : String) (vector : Construction) (lane : Nat)
  /-- One scalar for each lane. -/
  | build (name : String) (values : List String)

namespace Construction

/-- The text of the calls. -/
def print : Construction → String
  | .splat name scalar => s!"{name}( {scalar} )"
  | .insert name value vector lane => s!"{name}({value}, {vector.print}, {lane})"
  | .build name values =>
    let arguments := Text.join ", " values
    s!"{name}( {arguments} )"

/-- The scalars in the lanes, of which there are `count`. -/
def value (count : Nat) : Construction → List String
  | .splat _ scalar => List.replicate count scalar
  | .insert _ value vector lane => (vector.value count).set lane value
  | .build _ values => values

/-- The lanes that are replaced, the innermost first. -/
def indices : Construction → List Nat
  | .splat .. | .build .. => []
  | .insert _ _ vector lane => vector.indices ++ [lane]

/-- The scalars that occur in the calls. -/
def scalars : Construction → List String
  | .splat _ scalar => [scalar]
  | .insert _ value vector _ => value :: vector.scalars
  | .build _ values => values

/-- Every call uses the instruction that the catalog has for it. -/
def Known (context : Context) (type : NumericType) : Construction → Prop
  | .splat name _ => context.instruction? .broadcast type = some name
  | .insert name _ vector _ =>
    context.instruction? .insertLane type = some name ∧ vector.Known context type
  | .build name _ => context.instruction? .build type = some name

/-- Vectors of lanes inserted one by one, starting at a lane index. -/
def insertAll (name : String) : (lane : Nat) → (vector : Construction) → List String → Construction
  | _, vector, [] => vector
  | lane, vector, value :: values => insertAll name (lane + 1) (.insert name value vector lane) values

variable {context : Context} {type : NumericType} {name : String} {vector : Construction}
  {values : List String} {lane count : Nat}

/-- The construction prints as the text that the lowering makes. -/
theorem print_insertAll (name : String) (lane : Nat) (vector : Construction) (values : List String) :
    (insertAll name lane vector values).print =
      Lowering.insertLanes name lane vector.print values := by
  induction values generalizing lane vector with
  | nil => rfl
  | cons value values ih => exact ih (lane + 1) (.insert name value vector lane)

/-- Lanes are inserted in order, from the first one on. -/
theorem indices_insertAll (name : String) (lane : Nat) (vector : Construction) (values : List String) :
    (insertAll name lane vector values).indices = vector.indices ++ List.range' lane values.length := by
  induction values generalizing lane vector with
  | nil => simp [insertAll]
  | cons value values ih => simp [insertAll, ih, indices, List.range'_succ]

/-- Every instruction of the construction is one of the catalog. -/
theorem known_insertAll (inserts : context.instruction? .insertLane type = some name)
    (known : vector.Known context type) : (insertAll name lane vector values).Known context type := by
  induction values generalizing lane vector with
  | nil => exact known
  | cons value values ih => exact ih ⟨inserts, known⟩

/-- Insertion replaces the lanes from the first index on and leaves the others. -/
theorem value_insertAll (fits : lane + values.length ≤ (vector.value count).length) :
    (insertAll name lane vector values).value count =
      (vector.value count).take lane ++ values ++ (vector.value count).drop (lane + values.length) := by
  induction values generalizing lane vector with
  | nil => simp [insertAll]
  | cons value values ih =>
    rw [List.length_cons] at fits
    have inside : lane < (vector.value count).length := by omega
    have taken : ((vector.value count).set lane value).take (lane + 1) =
        (vector.value count).take lane ++ [value] := by
      rw [List.take_succ_eq_append_getElem (by simpa using inside), List.take_set_of_le (Nat.le_refl _),
        List.getElem_set_self]
    have fitsBehind : lane + 1 + values.length ≤
        ((Construction.insert name value vector lane).value count).length := by
      rw [Construction.value, List.length_set]
      omega
    rw [insertAll, ih fitsBehind, Construction.value, taken, List.drop_set_of_lt (by omega)]
    simp [Nat.add_assoc, Nat.add_comm 1]

/-- The construction holds no scalars but those inserted and those that were there. -/
theorem mem_scalars_insertAll {scalar : String}
    (member : scalar ∈ (insertAll name lane vector values).scalars) :
    scalar ∈ values ∨ scalar ∈ vector.scalars := by
  induction values generalizing lane vector with
  | nil => exact .inr member
  | cons value values ih =>
    rcases ih member with member | member
    · exact .inl (List.mem_cons_of_mem _ member)
    · rcases List.mem_cons.mp member with rfl | member
      · exact .inl (List.mem_cons_self ..)
      · exact .inr member

section Reading

/-- A splat as it is written, character by character. -/
theorem toList_print_splat (name scalar : String) :
    (splat name scalar).print.toList =
      name.toList ++ '(' :: ((' ' :: scalar.toList ++ [' ']) ++ [')']) := by
  change (name ++ "( " ++ scalar ++ " )").toList = _
  simp

/-- An insertion as it is written, character by character. -/
theorem toList_print_insert (name value : String) (vector : Construction) (lane : Nat) :
    (insert name value vector lane).print.toList =
      name.toList ++ '(' :: (value.toList ++ ',' :: ((' ' :: vector.print.toList) ++
        ',' :: ((' ' :: Nat.toDigits 10 lane) ++ [')']))) := by
  change (name ++ "(" ++ value ++ ", " ++ vector.print ++ ", " ++ toString lane ++ ")").toList = _
  simp

/-- The instructions that insert and splat have names without brackets and commas. -/
def PlainNames (context : Context) (type : NumericType) : Prop :=
  ∀ operation ∈ [Intrinsic.insertLane, .broadcast],
    ∀ name ∈ context.instruction? operation type, Text.Plain name.toList

instance (context : Context) (type : NumericType) : Decidable (PlainNames context type) :=
  List.decidableBAll
    (fun operation => ∀ name ∈ context.instruction? operation type, Text.Plain name.toList) _

/-- The name of a known splat is a plain word. -/
theorem PlainNames.splat (plain : PlainNames context type) {scalar : String}
    (known : (splat name scalar).Known context type) : Text.Plain name.toList :=
  plain .broadcast (by decide) name known

/-- The name of a known insertion is a plain word. -/
theorem PlainNames.insert (plain : PlainNames context type) {value : String}
    (known : (insert name value vector lane).Known context type) : Text.Plain name.toList :=
  plain .insertLane (by decide) name known.1

/-- Digits are plain words. -/
theorem toDigits_plain (number : Nat) : Text.Plain (Nat.toDigits 10 number) := by
  intro char member mark
  have isDigit := Nat.isDigit_of_mem_toDigits (by decide) (by decide) member
  simp only [List.mem_cons, List.not_mem_nil, or_false] at mark
  rcases mark with rfl | rfl | rfl <;> cases isDigit

/-- A number is determined by its digits. -/
theorem toDigits_injective : Function.Injective (Nat.toDigits 10) :=
  Function.LeftInverse.injective fun _ => Nat.ofDigitChars_ten_toDigits

/-- Blanks around a closed text leave it closed. -/
theorem spaced_closed {scalar : String} (closed : Text.Closed scalar.toList) :
    Text.Closed (' ' :: scalar.toList ++ [' ']) :=
  closed.spaced.append (show Text.Closed [' '] from rfl)

/-- Calls on arguments can be arguments in turn. -/
theorem print_closed (noBuild : context.instruction? .build type = none)
    (plain : PlainNames context type) (known : vector.Known context type)
    (closed : ∀ scalar ∈ vector.scalars, Text.Closed scalar.toList) :
    Text.Closed vector.print.toList := by
  induction vector with
  | splat name scalar =>
    rw [toList_print_splat]
    exact (spaced_closed (closed scalar (List.mem_singleton_self _))).enclosed.call (plain.splat known)
  | insert name value vector lane ih =>
    rw [toList_print_insert]
    obtain ⟨valueClosed, closed⟩ := List.forall_mem_cons.mp closed
    have vectorClosed := (ih known.2 closed).spaced
    have laneClosed := (toDigits_plain lane).closed.spaced
    have arguments := valueClosed.enclosed.comma (vectorClosed.enclosed.comma laneClosed.enclosed)
    simpa using arguments.call (plain.insert known)
  | build name values => cases noBuild.symm.trans known

/-- A call of one argument is no call of three. -/
theorem print_splat_ne_insert (plain : PlainNames context type) {scalar other value : String}
    (known : (splat name scalar).Known context type)
    (otherKnown : (insert other value vector lane).Known context type)
    (closed : Text.Closed scalar.toList) (valueClosed : Text.Closed value.toList) :
    (splat name scalar).print ≠ (insert other value vector lane).print := by
  intro same
  have same := congrArg String.toList same
  rw [toList_print_splat, toList_print_insert] at same
  obtain ⟨-, arguments⟩ := (plain.splat known).eq_of_append (plain.insert otherKnown) same
  obtain ⟨-, mark, -⟩ := (spaced_closed closed).eq_of_append valueClosed rfl rfl arguments
  cases mark

/-- In a context without a constructor, a text is that of one construction at most. -/
theorem eq_of_print (noBuild : context.instruction? .build type = none)
    (plain : PlainNames context type) {other : Construction} (known : vector.Known context type)
    (otherKnown : other.Known context type)
    (closed : ∀ scalar ∈ vector.scalars, Text.Closed scalar.toList)
    (otherClosed : ∀ scalar ∈ other.scalars, Text.Closed scalar.toList)
    (same : vector.print = other.print) : vector = other := by
  induction vector generalizing other with
  | build name values => cases noBuild.symm.trans known
  | splat name scalar =>
    have scalarClosed := closed scalar (List.mem_singleton_self _)
    cases other with
    | build otherName values => cases noBuild.symm.trans otherKnown
    | splat otherName otherScalar =>
      obtain rfl : name = otherName := Option.some.inj (known.symm.trans otherKnown)
      have same := congrArg String.toList same
      rw [toList_print_splat, toList_print_splat] at same
      obtain rfl : scalar = otherScalar := String.toList_inj.mp (by simpa using same)
      rfl
    | insert otherName value inner lane =>
      obtain ⟨valueClosed, -⟩ := List.forall_mem_cons.mp otherClosed
      exact absurd same (print_splat_ne_insert plain known otherKnown scalarClosed valueClosed)
  | insert name value inner lane ih =>
    obtain ⟨valueClosed, scalarsClosed⟩ := List.forall_mem_cons.mp closed
    cases other with
    | build otherName values => cases noBuild.symm.trans otherKnown
    | splat otherName otherScalar =>
      have scalarClosed := otherClosed otherScalar (List.mem_singleton_self _)
      exact absurd same.symm (print_splat_ne_insert plain otherKnown known scalarClosed valueClosed)
    | insert otherName otherValue otherInner otherLane =>
      obtain ⟨otherValueClosed, otherScalarsClosed⟩ := List.forall_mem_cons.mp otherClosed
      obtain rfl : name = otherName := Option.some.inj (known.1.symm.trans otherKnown.1)
      have same := congrArg String.toList same
      rw [toList_print_insert, toList_print_insert] at same
      -- The three arguments are read off one by one, each up to the mark behind it.
      obtain ⟨-, arguments⟩ := List.cons.inj (List.append_cancel_left same)
      obtain ⟨sameValue, -, behind⟩ := valueClosed.eq_of_append otherValueClosed rfl rfl arguments
      have innerClosed := (print_closed noBuild plain known.2 scalarsClosed).spaced
      have otherInnerClosed := (print_closed noBuild plain otherKnown.2 otherScalarsClosed).spaced
      obtain ⟨sameInner, -, digits⟩ := innerClosed.eq_of_append otherInnerClosed rfl rfl behind
      have sameInner := String.toList_inj.mp (List.cons.inj sameInner).2
      have sameLane := toDigits_injective (List.cons.inj (List.append_cancel_right digits)).2
      rw [String.toList_inj.mp sameValue, sameLane,
        ih known.2 otherKnown.2 scalarsClosed otherScalarsClosed sameInner]

/-- A text that is read as a vector: it is that of a construction from arguments, and the
vector has the scalars that the construction puts into the lanes. -/
def Reads (context : Context) (type : NumericType) (text : String) (vector : List String) : Prop :=
  ∃ term : Construction, term.Known context type ∧
    (∀ scalar ∈ term.scalars, Text.Closed scalar.toList) ∧
    term.print = text ∧ term.value type.lanes = vector

/-- The text of a construction is read as its own vector only. -/
theorem reads_print_iff (noBuild : context.instruction? .build type = none)
    (plain : PlainNames context type) (known : vector.Known context type)
    (closed : ∀ scalar ∈ vector.scalars, Text.Closed scalar.toList) {scalars : List String} :
    Reads context type vector.print scalars ↔ scalars = vector.value type.lanes := by
  constructor
  · rintro ⟨term, termKnown, termClosed, same, rfl⟩
    rw [eq_of_print noBuild plain termKnown known termClosed closed same]
  · rintro rfl
    exact ⟨vector, known, closed, rfl, rfl⟩

end Reading

end Construction

open Construction

variable {context : Context} {type : NumericType} {inserter splatter : String} {lanes : List String}

/-- The vector of zeros that C lanes are inserted into. -/
theorem broadcastText_zero (isC : context.language = .c) (isVector : type.isVector = true)
    (splats : context.instruction? .broadcast type = some splatter) :
    Lowering.broadcastText context (.computed "0" type.scalar) type =
      .ok (splat splatter "0").print := by
  have text : Lowering.splatText context "0" type = .ok (splat splatter "0").print := by
    rw [Lowering.splatText, isC, if_neg (by decide), Context.instruction_eq_ok.mpr splats]
    rfl
  rw [Lowering.broadcastText, isC, isVector]
  exact text

/-- In C, lanes that are complete are built into a vector. -/
theorem ofLanes_of_c (isC : context.language = .c) (complete : lanes.length = type.lanes) :
    Lowering.ofLanes context lanes type =
      (Lowering.buildText context lanes type).map (.computed · type) := by
  rw [Lowering.ofLanes, Lowering.laneListText, if_pos complete, isC]

/-- With an instruction that builds vectors, it is used. -/
theorem buildText_of_build {constructor : String}
    (builds : context.instruction? .build type = some constructor) :
    Lowering.buildText context lanes type = .ok (build constructor lanes).print := by
  rw [Lowering.buildText, builds]
  rfl

/-- Without one, lanes are inserted into a splat of zero. -/
theorem buildText_of_insertion (isC : context.language = .c) (isVector : type.isVector = true)
    (noBuild : context.instruction? .build type = none)
    (inserts : context.instruction? .insertLane type = some inserter)
    (splats : context.instruction? .broadcast type = some splatter) :
    Lowering.buildText context lanes type =
      .ok (insertAll inserter 0 (splat splatter "0") lanes).print := by
  rw [Lowering.buildText, noBuild, Context.instruction_eq_ok.mpr inserts,
    broadcastText_zero isC isVector splats, print_insertAll]
  rfl

/-- All lanes of a vector are replaced, whatever they were. -/
theorem value_insertAll_zeros (inserter splatter : String) (complete : lanes.length = type.lanes) :
    (insertAll inserter 0 (splat splatter "0") lanes).value type.lanes = lanes := by
  have zeros : ((splat splatter "0").value type.lanes).length = lanes.length := by
    rw [Construction.value, List.length_replicate, complete]
  rw [value_insertAll (by omega), List.take_zero, List.nil_append, List.drop_of_length_le (by omega),
    List.append_nil]

/-- Where C can insert and splat but has no constructor of vectors, one scalar per lane
gives a text of insertions into zeros, the first lane innermost. Each lane is replaced
once, and the vector is that of a constructor applied to the same scalars. Nothing else
can be read from the text if the scalars are arguments and the instructions have names. -/
theorem ofLanes_by_insertion (isC : context.language = .c) (isVector : type.isVector = true)
    (noBuild : context.instruction? .build type = none)
    (inserts : context.instruction? .insertLane type = some inserter)
    (splats : context.instruction? .broadcast type = some splatter)
    (complete : lanes.length = type.lanes) :
    ∃ term : Construction,
      Lowering.ofLanes context lanes type = .ok (.computed term.print type) ∧
      term.Known context type ∧
      term.indices = List.range type.lanes ∧
      term.value type.lanes = lanes ∧
      (∀ (other : Context) (constructor : String), other.language = .c →
        other.instruction? .build type = some constructor →
        Lowering.ofLanes other lanes type = .ok (.computed (build constructor lanes).print type) ∧
        (build constructor lanes).value type.lanes = term.value type.lanes) ∧
      (PlainNames context type → (∀ scalar ∈ lanes, Text.Closed scalar.toList) →
        ∀ vector, Reads context type term.print vector ↔ vector = lanes) := by
  have value := value_insertAll_zeros inserter splatter complete
  have known : (insertAll inserter 0 (splat splatter "0") lanes).Known context type :=
    known_insertAll inserts splats
  refine ⟨insertAll inserter 0 (splat splatter "0") lanes, ?_, known, ?_, value, ?_, ?_⟩
  · rw [ofLanes_of_c isC complete, buildText_of_insertion isC isVector noBuild inserts splats]
    rfl
  · rw [indices_insertAll, complete, List.range_eq_range']
    rfl
  · intro other constructor otherIsC builds
    rw [ofLanes_of_c otherIsC complete, buildText_of_build builds]
    exact ⟨rfl, value.symm⟩
  · intro plain closed vector
    have scalarsClosed : ∀ scalar ∈ (insertAll inserter 0 (splat splatter "0") lanes).scalars,
        Text.Closed scalar.toList := by
      intro scalar member
      rcases mem_scalars_insertAll member with member | member
      · exact closed scalar member
      · obtain rfl := List.mem_singleton.mp member
        decide
    rw [reads_print_iff noBuild plain known scalarsClosed, value]

/-- C on NEON, with instructions to insert and to splat four floats. -/
def floatInsertion : Context where
  target := ⟨.c, .arm⟩
  catalog :=
    let key (operation : Intrinsic) : Catalog.Key := ⟨operation, .arm, ⟨.float, 32, 4⟩⟩
    Catalog.empty.insertAll [(key .insertLane, "vsetq_lane_f32"), (key .broadcast, "vdupq_n_f32")]

/-- Four different scalars, one of them a call, are told apart in the text of insertions. -/
theorem floatInsertion_reads :
    let type := (NumericType.float 32).vector 4
    let lanes := ["a", "max(b, c)", "c", "d"]
    let text := "vsetq_lane_f32(d, vsetq_lane_f32(c, vsetq_lane_f32(max(b, c), " ++
      "vsetq_lane_f32(a, vdupq_n_f32( 0 ), 0), 1), 2), 3)"
    Lowering.ofLanes floatInsertion lanes type = .ok (.computed text type) ∧
    PlainNames floatInsertion type ∧ (∀ scalar ∈ lanes, Text.Closed scalar.toList) ∧
    ∀ vector, Reads floatInsertion type text vector ↔ vector = lanes := by
  intro type lanes text
  have isVector : type.isVector = true := rfl
  have inserts : floatInsertion.instruction? .insertLane type = some "vsetq_lane_f32" := rfl
  have splats : floatInsertion.instruction? .broadcast type = some "vdupq_n_f32" := rfl
  have complete : lanes.length = type.lanes := rfl
  have plain : PlainNames floatInsertion type := by decide
  have closed : ∀ scalar ∈ lanes, Text.Closed scalar.toList := by decide
  have written : (insertAll "vsetq_lane_f32" 0 (splat "vdupq_n_f32" "0") lanes).print = text := by
    decide +kernel
  have printed : Lowering.ofLanes floatInsertion lanes type = .ok (.computed text type) := by
    rw [ofLanes_of_c rfl complete, buildText_of_insertion rfl isVector rfl inserts splats, written]
    rfl
  obtain ⟨term, success, -, -, -, -, reads⟩ :=
    ofLanes_by_insertion rfl isVector rfl inserts splats complete
  have sameText : term.print = text :=
    congrArg Operand.text (Except.ok.inj (success.symm.trans printed))
  exact ⟨printed, plain, closed, sameText ▸ reads plain closed⟩

end VectorKernel.Lanes

import VectorKernel.Proofs.ShortestChain
import VectorKernel.Proofs.Success

/-!
# Conversions and the number of lanes

Where each conversion of a catalog joins types of equally many lanes, so does each walk
along them, through however many types and cycles. No chain of instructions then leads to
a vector of another number of lanes, and C, which has no other way to convert vectors,
refuses to make one, be it by a conversion, a load or a broadcast.
-/

namespace VectorKernel

namespace Catalog

variable {catalog : Catalog} {architecture : Architecture} {source target : Signature} {names : List String}
  {search : PathSearch Signature}

/-- Conversions that keep the lanes keep them along every chain. -/
theorem Walk.lanes_eq {edges : List (Edge × String)}
    (keep : ∀ row ∈ edges, row.1.source.lanes = row.1.target.lanes)
    (walk : Walk edges source names target) : source.lanes = target.lanes := by
  induction walk with
  | start => rfl
  | step _ known walked => exact walked.trans (keep _ known)

/-- A chain that is found leads to a type with as many lanes, whichever search found it. -/
theorem KeepsLanes.of_conversionPath (keeps : catalog.KeepsLanes)
    (found : catalog.conversionPath source target architecture search = .ok names) :
    source.lanes = target.lanes :=
  (conversionPath_walk found).lanes_eq fun row member => keeps row (List.mem_filter.mp member).1

/-- Types of different numbers of lanes have no conversion path. -/
theorem KeepsLanes.conversionPath_eq_error (keeps : catalog.KeepsLanes)
    (different : source.lanes ≠ target.lanes) (architecture : Architecture)
    (search : PathSearch Signature) :
    catalog.conversionPath source target architecture search =
      .error (.noConversion source target architecture) := by
  cases asked : catalog.conversionPath source target architecture search with
  | ok names => exact absurd (keeps.of_conversionPath asked) different
  | error fault => rw [fault_of_conversionPath asked]

end Catalog

namespace Lowering

variable {context : Context} {value : Operand} {source target : NumericType}

/-- C converts a vector to a vector type along a conversion path. -/
theorem convert_eq_of_isVector (inC : context.language = .c) (typed : value.numeric? = some source)
    (fromVector : source.isVector) (toVector : target.isVector) :
    convert context value target =
      (context.catalog.conversionPath source.toSignature target.toSignature context.architecture
        context.search).map (nest value.text) := by
  unfold convert
  simp only [typed]
  split
  · next same => rw [same, Catalog.conversionPath, if_pos rfl]; rfl
  · simp only [convertNumeric, inC, fromVector, toVector]

/-- A vector of another type is read by converting it. -/
theorem loadText_eq_convert (moves : context.language.movesVectors) (typed : value.numeric? = some source)
    (fromVector : source.isVector) : loadText context value target = convert context value target := by
  unfold loadText
  simp only [moves, typed, fromVector, if_true]
  split
  · next same => simp only [convert, typed, same, if_true]
  · rfl

/-- A vector is put into a vector type by converting it. -/
theorem broadcastText_eq_convert (moves : context.language.movesVectors)
    (typed : value.numeric? = some source) (fromVector : source.isVector) (toVector : target.isVector) :
    broadcastText context value target = convert context value target := by
  unfold broadcastText
  simp only [moves, typed, fromVector, toVector, Bool.and_self, if_true]

end Lowering

namespace Expr

variable {context : Context} {expression : Expr} {value : Operand} {type : NumericType}

/-- A load of a typed value is lowered as one. -/
theorem evaluate_load (evaluated : expression.evaluate context = .ok (.typed value)) :
    (load expression type).evaluate context = (Lowering.load context value type).map .typed := by
  rw [evaluate, evaluated]
  rfl

/-- A broadcast of a typed value is lowered as one. -/
theorem evaluate_broadcast (evaluated : expression.evaluate context = .ok (.typed value)) :
    (broadcast expression type).evaluate context = (Lowering.broadcast context value type).map .typed := by
  rw [evaluate, evaluated]
  rfl

end Expr

/-- Take any catalog whose conversions keep the number of lanes; those with the built-in
conversions of x86, of NEON or of both are such catalogs. A conversion path then joins types
of equally many lanes on every architecture, and C has no conversion of a vector to a vector
type with another number of lanes, nor a load or a broadcast of it. -/
theorem conversions_keep_lanes :
    ((Catalog.empty.insertConversions Catalog.X86.conversions).KeepsLanes ∧
      (Catalog.empty.insertConversions Catalog.Neon.conversions).KeepsLanes ∧
      Catalog.standard.KeepsLanes) ∧
    ∀ catalog : Catalog, catalog.KeepsLanes →
      (∀ (source target : Signature) (architecture : Architecture) (search : PathSearch Signature)
        (names : List String),
        catalog.conversionPath source target architecture search = .ok names → source.lanes = target.lanes) ∧
      ∀ (context : Context) (value : Operand) (source target : NumericType),
        context.catalog = catalog → context.language = .c → value.numeric? = some source →
        source.isVector → target.isVector → source.lanes ≠ target.lanes →
          let refused := Fault.noConversion source.toSignature target.toSignature context.architecture
          Lowering.convert context value target = .error refused ∧
          ∀ expression : Expr, expression.evaluate context = .ok (.typed value) →
            (Expr.load expression target).evaluate context = .error refused ∧
            (Expr.broadcast expression target).evaluate context = .error refused := by
  have keepsEmpty := Catalog.keepsLanes_empty
  refine ⟨⟨Catalog.keepsLanes_insertConversions keepsEmpty Catalog.X86.conversions_keep,
    Catalog.keepsLanes_insertConversions keepsEmpty Catalog.Neon.conversions_keep,
    Catalog.standard_keepsLanes⟩, ?_⟩
  intro catalog keeps
  refine ⟨fun _ _ _ _ _ found => keeps.of_conversionPath found, ?_⟩
  rintro context value source target rfl inC typed fromVector toVector different refused
  have moves : context.language.movesVectors := by rw [inC]; rfl
  have unconverted : Lowering.convert context value target = .error refused := by
    rw [Lowering.convert_eq_of_isVector inC typed fromVector toVector,
      keeps.conversionPath_eq_error different]
    rfl
  refine ⟨unconverted, fun expression evaluated => ⟨?_, ?_⟩⟩
  · rw [Expr.evaluate_load evaluated, Lowering.load, Lowering.loadText_eq_convert moves typed fromVector,
      unconverted]
    rfl
  · rw [Expr.evaluate_broadcast evaluated, Lowering.broadcast,
      Lowering.broadcastText_eq_convert moves typed fromVector toVector, unconverted]
    rfl

/-- Conversions on NEON between integers and floats of four lanes, back and forth. -/
def fourLanes : Catalog :=
  Catalog.empty.insertConversions [
    (⟨.arm, ⟨.signed, 32, 4⟩, ⟨.float, 32, 4⟩⟩, "vcvtq_f32_s32"),
    (⟨.arm, ⟨.float, 32, 4⟩, ⟨.signed, 32, 4⟩⟩, "vcvtq_s32_f32")]

/-- A vector of four integers can be read as floats, and these are no eight floats and no
two doubles. -/
theorem fourLanes_keep_lanes :
    let context : Context := { target := ⟨.c, .arm⟩, catalog := fourLanes }
    let floats : NumericType := (NumericType.float 32).vector 4
    let eight : NumericType := (NumericType.float 32).vector 8
    let two : NumericType := (NumericType.float 64).vector 2
    let read : Expr := .load (.value (.named "v" ((NumericType.int 32).vector 4))) floats
    fourLanes.KeepsLanes ∧
    read.evaluate context = .ok (.typed (.computed "vcvtq_f32_s32( v )" floats)) ∧
    (Expr.load read eight).evaluate context =
      .error (.noConversion floats.toSignature eight.toSignature .arm) ∧
    (Expr.broadcast read two).evaluate context =
      .error (.noConversion floats.toSignature two.toSignature .arm) := by
  intro context floats eight two read
  have keeps : fourLanes.KeepsLanes :=
    Catalog.keepsLanes_insertConversions Catalog.keepsLanes_empty (by decide)
  have evaluated : read.evaluate context = .ok (.typed (.computed "vcvtq_f32_s32( v )" floats)) := by
    with_unfolding_all rfl
  obtain ⟨-, refuses⟩ := conversions_keep_lanes.2 fourLanes keeps
  have loaded := (refuses context _ floats eight rfl rfl rfl rfl rfl (by decide)).2 read evaluated
  have spread := (refuses context _ floats two rfl rfl rfl rfl rfl (by decide)).2 read evaluated
  exact ⟨keeps, evaluated, loaded.1, spread.2⟩

end VectorKernel

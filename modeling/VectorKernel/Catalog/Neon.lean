import VectorKernel.Catalog.Basic

/-!
# Instructions of NEON

The vector instructions for registers of 64 and 128 bits. There is no
constructor from one scalar per lane, so vectors are built by inserting lanes;
aligned and other accesses share their instructions.
-/

namespace VectorKernel.Catalog.Neon

/-- The elements that vectors are made of. -/
def elements : List (Kind × Nat) :=
  [(.float, 32), (.float, 64)] ++
    [8, 16, 32, 64].flatMap fun width => [(.signed, width), (.unsigned, width)]

/-- The register sizes in bits with their mark in instruction names. -/
def registers : List (Nat × String) := [(64, ""), (128, "q")]

/-- The letter of a kind in instruction names. -/
def letter : Kind → String
  | .float => "f"
  | .signed => "s"
  | .unsigned => "u"

/-- Rows for one type, with the mark of its register. Products exist up to 32
bits for integers; quotients and fused operations for floats only. -/
def rowsOf (signature : Signature) (mark : String) : List (Key × String) :=
  let float := signature.kind.isFloat
  let suffix := s!"{letter signature.kind}{signature.width}"
  let named (verb : String) := s!"{verb}{mark}_{suffix}"
  let instructions : List (Intrinsic × String) :=
    [(.add, named "vadd"), (.sub, named "vsub")] ++
    (if float ∨ signature.width < 64 then [(.mul, named "vmul")] else []) ++
    (if float then [(.div, named "vdiv"), (.fusedMultiplyAdd, named "vfma")] else []) ++
    [(.load, named "vld1"), (.loadAligned, named "vld1"), (.store, named "vst1"),
      (.storeAligned, named "vst1"), (.broadcast, s!"vdup{mark}_n_{suffix}"),
      (.insertLane, s!"vset{mark}_lane_{suffix}")]
  instructions.map fun (operation, name) => ({ operation, architecture := .arm, signature }, name)

/-- Every instruction. Registers with room for a single lane have none. -/
def rows : List (Key × String) :=
  elements.flatMap fun (kind, width) =>
    registers.flatMap fun (bits, mark) =>
      if bits / width < 2 then [] else rowsOf { kind, width, lanes := bits / width } mark

/-- Every conversion: between integers and floats, between float precisions,
widening and narrowing of integers. -/
def conversions : List (Edge × String) :=
  let convert (source target : Signature) (name : String) : Edge × String :=
    ({ architecture := .arm, source, target }, name)
  [convert ⟨.signed, 32, 2⟩ ⟨.float, 32, 2⟩ "vcvt_f32_s32",
    convert ⟨.signed, 32, 4⟩ ⟨.float, 32, 4⟩ "vcvtq_f32_s32",
    convert ⟨.unsigned, 32, 4⟩ ⟨.float, 32, 4⟩ "vcvtq_f32_u32",
    convert ⟨.float, 32, 2⟩ ⟨.signed, 32, 2⟩ "vcvt_s32_f32",
    convert ⟨.float, 32, 4⟩ ⟨.signed, 32, 4⟩ "vcvtq_s32_f32",
    convert ⟨.float, 32, 4⟩ ⟨.unsigned, 32, 4⟩ "vcvtq_u32_f32",
    convert ⟨.signed, 64, 2⟩ ⟨.float, 64, 2⟩ "vcvtq_f64_s64",
    convert ⟨.float, 64, 2⟩ ⟨.signed, 64, 2⟩ "vcvtq_s64_f64",
    convert ⟨.float, 32, 2⟩ ⟨.float, 64, 2⟩ "vcvt_f64_f32",
    convert ⟨.float, 64, 2⟩ ⟨.float, 32, 2⟩ "vcvt_f32_f64",
    convert ⟨.signed, 8, 8⟩ ⟨.signed, 16, 8⟩ "vmovl_s8",
    convert ⟨.unsigned, 8, 8⟩ ⟨.unsigned, 16, 8⟩ "vmovl_u8",
    convert ⟨.signed, 16, 4⟩ ⟨.signed, 32, 4⟩ "vmovl_s16",
    convert ⟨.unsigned, 16, 4⟩ ⟨.unsigned, 32, 4⟩ "vmovl_u16",
    convert ⟨.signed, 32, 2⟩ ⟨.signed, 64, 2⟩ "vmovl_s32",
    convert ⟨.unsigned, 32, 2⟩ ⟨.unsigned, 64, 2⟩ "vmovl_u32",
    convert ⟨.signed, 16, 8⟩ ⟨.signed, 8, 8⟩ "vmovn_s16",
    convert ⟨.signed, 32, 4⟩ ⟨.signed, 16, 4⟩ "vmovn_s32",
    convert ⟨.signed, 64, 2⟩ ⟨.signed, 32, 2⟩ "vmovn_s64"]

end VectorKernel.Catalog.Neon

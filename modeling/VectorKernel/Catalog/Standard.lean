import VectorKernel.Catalog.Neon
import VectorKernel.Catalog.X86

/-!
# The standard catalog

The instructions that are known without any table: those of x86 and of NEON.
-/

namespace VectorKernel.Catalog

/-- The catalog of the built-in instructions. -/
def standard : Catalog :=
  (((empty.insertAll X86.rows).insertConversions X86.conversions).insertAll Neon.rows).insertConversions
    Neon.conversions

end VectorKernel.Catalog

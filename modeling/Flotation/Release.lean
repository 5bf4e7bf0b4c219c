/-! The release of the library. -/
namespace Flotation

structure Release where
  major : Nat
  minor : Nat
  patch : Nat
  deriving DecidableEq, Repr

namespace Release

def current : Release := ⟨0, 2, 0⟩

/-- The three numbers with points between them. -/
def text (r : Release) : String :=
  toString r.major ++ "." ++ toString r.minor ++ "." ++ toString r.patch

end Release
end Flotation

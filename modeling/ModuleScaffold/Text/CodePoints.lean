import ModuleScaffold.Text.Basic

/-!
# Sets of code points

A set of code points is a list of closed ranges.  The tables of this library are
such sets, written in ascending order.
-/

namespace ModuleScaffold

/-- A set of code points, as closed ranges. -/
abbrev CodePoints := List (Nat × Nat)

namespace CodePoints

/-- Whether a code point lies in one of the ranges. -/
def contains (ranges : CodePoints) (c : Char) : Bool :=
  ranges.any fun range => range.1 ≤ c.toNat && c.toNat ≤ range.2

end CodePoints

end ModuleScaffold

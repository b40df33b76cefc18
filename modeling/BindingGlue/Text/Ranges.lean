/-!
# Ranges of code points

A table of characters is a list of closed ranges of code points, or of runs: a run has a stride, so
that an alphabet whose upper- and lower-case letters alternate takes one entry.
-/

namespace BindingGlue.Text

/-- Closed ranges of code points, each given by its first and last member. -/
abbrev Ranges := List (Nat × Nat)

/-- Whether some range holds the character. -/
def Ranges.covers (ranges : Ranges) (c : Char) : Bool :=
  ranges.any fun (first, last) ↦ first ≤ c.toNat && c.toNat ≤ last

/-- The code points from `first` to `last`, every `stride`-th of them. -/
structure Run where
  /-- The least member. -/
  first : Nat
  /-- The greatest member. -/
  last : Nat
  /-- The distance between neighbouring members. -/
  stride : Nat

/-- Whether the code point belongs to the run. -/
def Run.contains (run : Run) (n : Nat) : Bool :=
  run.first ≤ n && n ≤ run.last && (n - run.first) % run.stride == 0

end BindingGlue.Text

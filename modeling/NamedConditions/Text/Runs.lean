/-!
Runs of code points: the members of a class of characters, as first and last code point of each run,
in order. Whether a code point is a member is found by bisection.
-/
namespace NamedConditions.Text

/-- First and last code point of each run, in order. -/
abbrev Runs := Array (Nat × Nat)

namespace Runs

/-- Whether a code point lies in one of the runs from `low` up to `high`, by bisection. -/
def hasWithin (runs : Runs) (n low high : Nat) : Bool :=
  if low < high then
    let middle := (low + high) / 2
    match runs[middle]? with
    | none => false
    | some (first, last) =>
      if n < first then hasWithin runs n low middle
      else if last < n then hasWithin runs n (middle + 1) high
      else true
  else false
termination_by high - low

/-- Whether a code point lies in one of the runs. -/
def has (runs : Runs) (n : Nat) : Bool := runs.hasWithin n 0 runs.size

end Runs

end NamedConditions.Text

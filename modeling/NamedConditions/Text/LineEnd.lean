/-!
Ends of lines. A line may end with a line feed, or with a carriage return and a line feed; a text
with plain ends has the line feed alone. A carriage return that stands anywhere else stays.

Main statement: a text without carriage returns has plain ends already.
-/
namespace NamedConditions.Text

/-- A text in which every line ends with a line feed alone. -/
def withPlainEnds : List Char → List Char
  | '\r' :: '\n' :: s => '\n' :: withPlainEnds s
  | c :: s => c :: withPlainEnds s
  | [] => []

theorem withPlainEnds_of_not_mem {s : List Char} (h : '\r' ∉ s) : withPlainEnds s = s := by
  fun_induction withPlainEnds s with
  | case1 s _ => exact absurd List.mem_cons_self h
  | case2 c s _ ih => rw [ih fun hm => h (List.mem_cons_of_mem c hm)]
  | case3 => rfl

end NamedConditions.Text

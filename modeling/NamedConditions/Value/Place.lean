import NamedConditions.Value.Render
/-!
Values whose text tells where something lies in memory, as that of an object without a text of its
own does. Such a text differs from run to run, so that it says nothing about the value.
-/
namespace NamedConditions.Value

mutual

/-- Whether a value, as it is written inside other values, tells a place. -/
def tellsPlace : Value → Bool
  | list items | tuple items | set items | frozenSet items => itemsTellPlace items
  | dict entries => entriesTellPlace entries
  | spec check name => tellsPlace check || tellsPlace name
  | evaluator _ _ keys => itemsTellPlace keys
  | object _ o => objectTellsPlace o
  | null | bool _ | int _ | float _ | complex .. | str _ | brokenStr _ | bytes _ | byteArray _
  | range _ => false

/-- Whether an object tells a place. -/
def objectTellsPlace : Object → Bool
  | .deque items | .userList items => itemsTellPlace items
  | .readOnly entries => entriesTellPlace entries
  | .keys entries => keysTellPlace entries
  | .record attributes => attributesTellPlace attributes
  | .decimal _ | .fraction _ | .subText _ | .native _ | .evaluatorOf _ | .labelled .. => false
  | .byteView _ | .mapping _ | .predicate .. | .plain | .truth _ | .truthFails _ | .sized _
  | .collection _ | .iterator | .textFails _ => true

/-- Whether one of some items tells a place. -/
def itemsTellPlace : List Value → Bool
  | [] => false
  | v :: vs => tellsPlace v || itemsTellPlace vs

/-- Whether one of some entries tells a place. -/
def entriesTellPlace : List (Value × Value) → Bool
  | [] => false
  | (key, v) :: es => tellsPlace key || tellsPlace v || entriesTellPlace es

/-- Whether the key of one of some entries tells a place. -/
def keysTellPlace : List (Value × Value) → Bool
  | [] => false
  | (key, _) :: es => tellsPlace key || keysTellPlace es

/-- Whether one of some attributes tells a place; one without a name is not written. -/
def attributesTellPlace : List (String × Value) → Bool
  | [] => false
  | (a, v) :: as => (!a.isEmpty && tellsPlace v) || attributesTellPlace as

end

end NamedConditions.Value

import NamedConditions.Value.Layer
/-!
What a value gives when its items are taken one after another. More values can be walked than are
sequences: texts give their characters, sets their members, and mappings their keys.
-/
namespace NamedConditions.Value

/-- The items that a value gives one after another: a mapping gives its keys, an object that can do
no more than be iterated nothing. -/
def iterate? (v : Value) : Option (List Value) :=
  match v with
  | str s => some (s.toList.map fun c => .str (String.singleton c))
  | object _ (.subText s) => some (s.toList.map fun c => .str (String.singleton c))
  | brokenStr codes => some (codes.map fun n => ofCodePoints [n])
  | set xs | frozenSet xs => some xs
  | object _ (.keys es) => some (Layer.keys es)
  | object _ .iterator | object _ (.collection _) => some []
  | v =>
    match v.octets?, v.entries?, v.items? with
    | some os, _, _ => some (os.map fun o => .int (Int.ofNat o.toNat))
    | none, some es, _ => some (Layer.keys es)
    | none, none, xs => xs

/-- Whether a value can be walked, which of a sequence is known without its items. -/
def isIterable (v : Value) : Bool := v.length?.isSome || v.iterate?.isSome

end NamedConditions.Value

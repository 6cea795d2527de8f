import NamedConditions.Value.Basic
import NamedConditions.Text.Quoted
/-!
How values are written: by themselves (`Value.asText`), and inside other values (`Value.shown`).
-/
namespace NamedConditions

/-- Texts with a comma and a blank between them. -/
def commaSeparated (texts : List String) : String := ", ".intercalate texts

namespace Native

/-- The name of a function of the host. -/
def name : Native → String
  | len => "len"
  | bool => "bool"
  | list => "list"
  | dict => "dict"
  | int => "int"
  | any => "any"
  | all => "all"
  | callable => "callable"

/-- Whether a function of the host is a type, which makes values of its own. -/
def isType : Native → Bool
  | bool | list | dict | int => true
  | len | any | all | callable => false

/-- A function of the host as it is shown. -/
def shown (f : Native) : String :=
  if f.isType then "<class '" ++ f.name ++ "'>" else "<built-in function " ++ f.name ++ ">"

end Native

namespace Value

/-- A text in quotes. -/
def quotedText (s : String) : String := String.ofList (Text.quoted s.toList)

/-- Quoted octets, marked as octets. -/
def markedOctets (quoted : List Char) : String := "b" ++ String.ofList quoted

/-- A tuple of written items; one item alone is followed by a comma. -/
def tupleText : List String → String
  | [x] => "(" ++ x ++ ",)"
  | xs => "(" ++ commaSeparated xs ++ ")"

/-- Written items or entries between braces. -/
def braced (texts : List String) : String := "\x7b" ++ commaSeparated texts ++ "\x7d"

/-- A set of written items, which has a name when it is empty. -/
def setText (texts : List String) : String := if texts.isEmpty then "set()" else braced texts

/-- A frozen set of written items. -/
def frozenSetText (texts : List String) : String :=
  if texts.isEmpty then "frozenset()" else "frozenset(" ++ braced texts ++ ")"

/-- The error of writing a whole number with too many digits. -/
def tooManyDigits : Raised :=
  .ofText .badValue ("Exceeds the limit (" ++ toString Whole.digitLimit ++ " digits) for " ++
    "integer string conversion; use sys.set_int_max_str_digits() to increase the limit")

/-- A whole number as it is written. -/
def wholeText (n : Int) : Except Raised String := (Whole.text? n).elim (.error tooManyDigits) .ok

/-- A fraction as it is written inside other values. -/
def shownFraction (q : Rat) : Except Raised String := do
  return "Fraction(" ++ (← wholeText q.num) ++ ", " ++ (← wholeText q.den) ++ ")"

/-- The text of an evaluator: the number of its conditions and the texts of the keys of its context,
sorted. -/
def evaluatorText (conditionCount : Nat) (keyTexts : List String) : String :=
  let sorted := keyTexts.mergeSort fun a b => !(b < a)
  "ConditionEvaluator(conditions=" ++ toString conditionCount ++ ", context_keys=[" ++
    commaSeparated (sorted.map quotedText) ++ "])"

/-- The text of a value by itself that differs from what it is inside others, but for views of
dictionaries. -/
def ownText? : Value → Option (Except Raised String)
  | str s => some (.ok s)
  | brokenStr codes => some (.ok codes.text)
  | object _ o =>
    match o with
    | .subText s => some (.ok s)
    | .decimal d => some (.ok d.text)
    | .fraction q => some ((Fraction.text? q).elim (.error tooManyDigits) .ok)
    | .labelled text _ => some (.ok text)
    | .textFails error => some (.error error)
    | _ => none
  | _ => none

mutual

/-- A value as it is written inside other values, unless it holds a number with too many digits. -/
def shown : Value → Except Raised String
  | null => .ok "None"
  | bool b => .ok (if b then "True" else "False")
  | int n => wholeText n
  | float x => .ok x.text
  | complex re im => .ok (Binary64.complexText re im)
  | str s => .ok (quotedText s)
  | brokenStr codes => .ok (String.ofList codes.quoted)
  | bytes octets => .ok (markedOctets (Text.quotedOctets octets))
  | byteArray octets =>
    .ok ("bytearray(" ++ markedOctets (Text.quotedOctetArray octets) ++ ")")
  | list items => (shownItems items).map fun texts => "[" ++ commaSeparated texts ++ "]"
  | tuple items => (shownItems items).map tupleText
  | set items => (shownItems items).map setText
  | frozenSet items => (shownItems items).map frozenSetText
  | range stop => (wholeText stop).map fun text => "range(0, " ++ text ++ ")"
  | dict entries => (shownEntries entries).map braced
  | spec check name => do
    return "ConditionSpec(check=" ++ (← shown check) ++ ", name=" ++ (← shown name) ++ ")"
  | object _ o => shownObject o
  | evaluator _ count keys => (keyTexts keys).map (evaluatorText count)

/-- An object as it is written inside values. -/
def shownObject : Object → Except Raised String
  | .byteView _ => .ok "<memory>"
  | .decimal d => .ok ("Decimal('" ++ d.text ++ "')")
  | .fraction q => shownFraction q
  | .deque items => (shownItems items).map fun texts => "deque([" ++ commaSeparated texts ++ "])"
  | .userList items => (shownItems items).map fun texts => "[" ++ commaSeparated texts ++ "]"
  | .subText s => .ok (quotedText s)
  | .mapping _ => .ok "<UserMapping object>"
  | .readOnly entries =>
    (shownEntries entries).map fun texts => "mappingproxy(" ++ braced texts ++ ")"
  | .keys entries =>
    (shownKeys entries).map fun texts => "dict_keys([" ++ commaSeparated texts ++ "])"
  | .record attributes =>
    (shownAttributes attributes).map fun texts => "namespace(" ++ commaSeparated texts ++ ")"
  | .native f => .ok f.shown
  | .predicate .. => .ok "<Pred object>"
  | .evaluatorOf setup => .ok (shownSetup setup)
  | .labelled _ shown => .ok shown
  | _ => .ok "<Obj object>"

/-- An evaluator that was just made: the number of its conditions, and no context. -/
def shownSetup : Setup → String
  | .mk conditions _ _ _ => evaluatorText (conditions.elim 0 fun v => v.length?.getD 0) []

def shownItems : List Value → Except Raised (List String)
  | [] => .ok []
  | v :: vs => do return (← shown v) :: (← shownItems vs)

def shownEntries : List (Value × Value) → Except Raised (List String)
  | [] => .ok []
  | (k, v) :: es => do
    return ((← shown k) ++ ": " ++ (← shown v)) :: (← shownEntries es)

def shownKeys : List (Value × Value) → Except Raised (List String)
  | [] => .ok []
  | (k, _) :: es => do return (← shown k) :: (← shownKeys es)

/-- Keys by themselves; no view of a dictionary is a key. -/
def keyTexts : List Value → Except Raised (List String)
  | [] => .ok []
  | k :: ks => do return (← (ownText? k).getD (shown k)) :: (← keyTexts ks)

/-- Attributes as they are written; one without a name is left out. -/
def shownAttributes : List (String × Value) → Except Raised (List String)
  | [] => .ok []
  | (a, v) :: as =>
    if a.isEmpty then shownAttributes as
    else do return (a ++ "=" ++ (← shown v)) :: (← shownAttributes as)

end

/-- A value as it is written by itself; an object that fails when asked gives its error. -/
def asText : Value → Except Raised String
  | object _ (.readOnly entries) => (shownEntries entries).map braced
  | v => v.ownText?.getD v.shown

/-- The name of a value's type. -/
def typeName : Value → String
  | null => "NoneType"
  | bool _ => "bool"
  | int _ => "int"
  | float _ => "float"
  | complex .. => "complex"
  | str _ => "str"
  | brokenStr _ => "str"
  | bytes _ => "bytes"
  | byteArray _ => "bytearray"
  | list _ => "list"
  | tuple _ => "tuple"
  | set _ => "set"
  | frozenSet _ => "frozenset"
  | range _ => "range"
  | dict _ => "dict"
  | spec .. => "ConditionSpec"
  | evaluator .. => "ConditionEvaluator"
  | object _ o =>
    match o with
    | .byteView _ => "memoryview"
    | .decimal _ => "Decimal"
    | .fraction _ => "Fraction"
    | .deque _ => "deque"
    | .userList _ => "UserList"
    | .subText _ => "StrSub"
    | .mapping _ => "UserMapping"
    | .readOnly _ => "mappingproxy"
    | .keys _ => "dict_keys"
    | .record _ => "SimpleNamespace"
    | .native f => if f.isType then "type" else "builtin_function_or_method"
    | .predicate .. => "Pred"
    | .evaluatorOf _ => "ConditionEvaluator"
    | _ => "Obj"

/-- The name of a value's type, behind the place where the type is found if it is not a basic
one. -/
def typePath (v : Value) : String :=
  match v with
  | object _ (.decimal _) => "decimal.Decimal"
  | object _ (.deque _) => "collections.deque"
  | object _ (.record _) => "types.SimpleNamespace"
  | v => v.typeName

/-- The name of the type that was found where a text belongs; nothing goes by its own name. -/
def sortName (v : Value) : String :=
  match v with
  | null => "None"
  | v => v.typePath

end Value

end NamedConditions

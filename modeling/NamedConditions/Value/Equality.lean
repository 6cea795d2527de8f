import NamedConditions.Value.Layer
/-!
Equality of values, as a predicate tests it. Numbers compare by exact value across their kinds,
texts by characters, sequences item by item, mappings of all kinds by their entries in any order;
objects without a comparison of their own are equal only to themselves. Inside other values, what is
the very same is not compared, so that a list with an undefined number in it equals itself. Mappings
are compared entry by entry, in the order of the one of the two that leads.
-/
namespace NamedConditions.Value

/-- The items of a list of either class. -/
def listItems? : Value → Option (List Value)
  | list xs => some xs
  | object _ (.userList xs) => some xs
  | _ => none

/-- The members of a set of any class. -/
def members? : Value → Option (List Value)
  | set xs => some xs
  | frozenSet xs => some xs
  | object _ (.keys es) => some (Layer.keys es)
  | _ => none

/-- Whether two sets have the same members. -/
def sameMembers (xs ys : List Value) : Bool :=
  xs.length = ys.length && xs.all fun x => ys.any fun y => x.sameKey y

/-- The identity of an object that has one. -/
def identity? : Value → Option Nat
  | object id _ => some id
  | _ => none

/-- Whether two values are the very same undefined number or the very same object. -/
def isSame : Value → Value → Bool
  | float x, float y => !x.marks.isEmpty && x = y
  | complex re im, complex re' im' => !(re.marks ++ im.marks).isEmpty && re = re' && im = im'
  | object a _, object b _ => a = b
  | _, _ => false

/-- The attributes of a record of attributes. -/
def attributes? : Value → Option (List (String × Value))
  | object _ (.record as) => some as
  | _ => none

/-- Equality of a number and a value. -/
def equalNumbers? (a b : Value) : Option Bool :=
  match a.number?, b.number? with
  | some x, some y => x.equal? y
  | _, _ => some false

/-- An answer that holds only for two lists of the same length. -/
def ofSize {α β : Type} (xs : List α) (ys : List β) (answer : Option Bool) : Option Bool :=
  if xs.length = ys.length then answer else some false

/-! ## The order of comparisons

Two values may differ in one part and hold a signalling number in another, and then it matters which
part is compared first. -/

/-- How a value compares with another one; none if a signalling number refuses. -/
abbrev Comparison := Value → Option Bool

/-- Whether two parts of values are the very same, or else what comparing them says. -/
def sameOr (v w : Value) (answer : Option Bool) : Option Bool :=
  if isSame v w then some true else answer

/-- Whether comparing two mappings goes through the entries of the first: a mapping of a class of
its own compares itself, and the others leave that to the second operand unless it is a
dictionary. -/
def firstLeads (a b : Value) : Bool :=
  match a, b with
  | object _ (.mapping _), _ => true
  | _, dict _ => true
  | _, _ => false

/-- Whether comparing two mappings goes through the entries of `a`; `turned` says that `b` is the
first operand. -/
def leads (turned : Bool) (a b : Value) : Bool :=
  if turned then !firstLeads b a else firstLeads a b

/-- Whether a value is a list of a class of its own. -/
def isUserList : Value → Bool
  | object _ (.userList _) => true
  | _ => false

/-- Whether the items of `b` are the first operands in a comparison of two lists: a list leaves the
comparison with one of another class to that. -/
def turnsItems (turned : Bool) (a b : Value) : Bool :=
  if a.isUserList = b.isUserList then turned else b.isUserList

/-- Whether each of some entries finds something under its key with which it is equal, up to the
first that does not. -/
def allFound {κ β γ : Type} (find? : κ → Option γ) (equal? : β → γ → Option Bool) :
    List (κ × β) → Option Bool
  | [] => some true
  | (key, b) :: es =>
    match (find? key).elim (some false) (equal? b) with
    | some true => allFound find? equal? es
    | other => other

/-- Whether what is stored under keys on one side, given by its comparisons, equals what is stored
on the other. -/
def equalStored? {κ : Type} (find? : {β : Type} → κ → List (κ × β) → Option β) (isLeading : Bool)
    (compared : List (κ × Comparison)) (stored : List (κ × Value)) : Option Bool :=
  ofSize compared stored <|
    if isLeading then allFound (fun key => find? key stored) (fun compare v => compare v) compared
    else allFound (fun key => find? key compared) (fun v compare => compare v) stored

/-- Whether the values of one mapping, given by their comparisons, equal those of another. -/
def equalEntries? (isLeading : Bool) (compared : Layer Comparison) (es : Entries) : Option Bool :=
  equalStored? (fun key l => Layer.find? l key) isLeading compared es

/-- Whether the attributes of one record, given by their comparisons, equal those of another. -/
def equalAttributes? (isLeading : Bool) (compared : List (String × Comparison))
    (attributes : List (String × Value)) : Option Bool :=
  equalStored? List.lookup isLeading compared attributes

mutual

/-- Equality of two values, of which `b` is the first operand if they are turned; none if a
signalling number refuses the comparison. -/
def equalIn? (turned : Bool) (a b : Value) : Option Bool :=
  match a with
  | null => some (match b with | null => true | _ => false)
  | bool _ | int _ | float _ | complex .. => equalNumbers? a b
  | str s => some (b.text? = some s)
  | brokenStr codes => some (match b with | brokenStr codes' => codes = codes' | _ => false)
  | bytes os | byteArray os => some (b.viewedOctets? = some os)
  | list xs => b.listItems?.elim (some false) fun ys =>
      ofSize xs ys (equalItems? (turnsItems turned (list xs) b) xs ys)
  | tuple xs => match b with
    | tuple ys => equalItems? turned xs ys
    | _ => some false
  | set xs | frozenSet xs => some (b.members?.elim false (sameMembers xs))
  | range n => match b with
    | range m => some (n.toNat = m.toNat)
    | _ => some false
  | dict es => b.entries?.elim (some false) fun fs =>
      let isLeading := leads turned (dict es) b
      equalEntries? isLeading (comparisons (!isLeading) es) fs
  | spec check name => match b with
    | spec check' name' =>
      match sameOr check check' (equalIn? turned check check') with
      | some true => sameOr name name' (equalIn? turned name name')
      | other => other
    | _ => some false
  | object id o => equalObject? turned id o b
  | evaluator n .. => some (match b with | evaluator m .. => n = m | _ => false)

/-- Equality of an object and a value. -/
def equalObject? (turned : Bool) (id : Nat) (o : Object) (b : Value) : Option Bool :=
  match o with
  | .decimal d => equalNumbers? (object id (.decimal d)) b
  | .fraction q => equalNumbers? (object id (.fraction q)) b
  | .byteView os => some (b.viewedOctets? = some os)
  | .deque xs => match b with
    | object _ (.deque ys) => ofSize xs ys (equalItems? turned xs ys)
    | _ => some false
  | .userList xs => b.listItems?.elim (some false) fun ys =>
      ofSize xs ys (equalItems? (turnsItems turned (object id (.userList xs)) b) xs ys)
  | .subText s => some (b.text? = some s)
  | .mapping es => b.entries?.elim (some false) fun fs =>
      let isLeading := leads turned (object id (.mapping es)) b
      equalEntries? isLeading (comparisons (!isLeading) es) fs
  | .readOnly es => b.entries?.elim (some false) fun fs =>
      let isLeading := leads turned (object id (.readOnly es)) b
      equalEntries? isLeading (comparisons (!isLeading) es) fs
  | .keys es => some (b.members?.elim false (sameMembers (Layer.keys es)))
  | .record as => b.attributes?.elim (some false) fun bs =>
      equalAttributes? (!turned) (attributeComparisons turned as) bs
  | .native f => some (match b with | object _ (.native g) => f = g | _ => false)
  | _ => some (b.identity? = some id)

/-- Equality of two runs of items, up to the first that differ. -/
def equalItems? (turned : Bool) : List Value → List Value → Option Bool
  | [], [] => some true
  | x :: xs, y :: ys =>
    match sameOr x y (equalIn? turned x y) with
    | some true => equalItems? turned xs ys
    | other => other
  | _, _ => some false

/-- How the values of entries compare. -/
def comparisons (turned : Bool) : List (Value × Value) → Layer Comparison
  | [] => []
  | (key, v) :: es => (key, fun w => sameOr v w (equalIn? turned v w)) :: comparisons turned es

/-- How the values of attributes compare. -/
def attributeComparisons (turned : Bool) : List (String × Value) → List (String × Comparison)
  | [] => []
  | (a, v) :: as => (a, fun w => sameOr v w (equalIn? turned v w)) :: attributeComparisons turned as

end

/-- Equality of two values; none if a signalling number refuses the comparison. -/
def equal? (a b : Value) : Option Bool := equalIn? false a b

end NamedConditions.Value

import NamedConditions.Member.Collections
import NamedConditions.Member.Functions
import NamedConditions.Member.Held
import NamedConditions.Member.Numbers
import NamedConditions.Member.Program
import NamedConditions.Member.Roots
import NamedConditions.Member.Sequences
import NamedConditions.Member.Texts
/-!
Looking up members: what a thing gives for a name, and where a path of names leads. What a thing
holds comes first, then the parts that its class says it has, then names that anyone may choose, and
then all else that its class has. A class gives its own members as well, which then belong to no
value.
-/
namespace NamedConditions

namespace HostClass

/-- All classes. -/
def all : List HostClass :=
  rootClasses ++ numberClasses ++ textClasses ++ sequenceClasses ++ collectionClasses ++
    functionClasses ++ programClasses

/-- The class of a name. -/
def named? (name : String) : Option HostClass := all.find? fun c => c.name = name

end HostClass

/-- What a name stands for, and the class that says so. -/
structure Found where
  owner : Thing
  kind : MemberKind

namespace Thing

/-! ## Classes of things -/

/-- The class of a name, with functions added to it. -/
def classNamed (name : String) (added : List String) : Thing :=
  .hostClass name added ((HostClass.named? name).elim false HostClass.isAbstract)

/-- The class of a thing. -/
def classOf : Thing → Thing
  | value v => classNamed v.typeName (addedFunctions v)
  | t => classNamed t.typeName []

/-- A thing as a class, if it is one. -/
def asClass? : Thing → Option Thing
  | value (.object _ (.native f)) => if f.isType then some (classNamed f.name []) else none
  | hostClass name added isAbstract => some (.hostClass name added isAbstract)
  | _ => none

/-- The names of the classes behind a class. -/
def ancestors : Thing → List String
  | hostClass name _ _ => (HostClass.named? name).elim ["object"] HostClass.ancestors
  | _ => []

/-- A class and the classes behind it, in the order in which they are asked. -/
def lineage (c : Thing) : List Thing := c :: c.ancestors.map fun name => classNamed name []

/-- What a name stands for in a class itself. -/
def ownMember? (name : String) : Thing → Option MemberKind
  | hostClass className added _ =>
    if name ∈ added then some (.method [.names, .locals])
    else (HostClass.named? className).bind fun c => c.own? name
  | _ => none

/-- What a name stands for in the first of some classes that has it. -/
def search (name : String) : List Thing → Option Found
  | [] => none
  | c :: cs => (c.ownMember? name).elim (search name cs) fun kind => some ⟨c, kind⟩

end Thing

/-- A part as a member of a class. -/
def Access.thing (owner : Thing) : Access → Thing
  | computed isDescribed =>
    .other "getset_descriptor" [(Thing.ownerName, owner), Thing.description isDescribed]
  | slot isDescribed =>
    .other "member_descriptor" [(Thing.ownerName, owner), Thing.description isDescribed]
  | property traits =>
    .other "property" [("fget", .function traits), Thing.description (.described ∈ traits)]

namespace Found

/-- Whether a name stands for a part. -/
def isPart (f : Found) : Bool := match f.kind with | .part .. => true | _ => false

/-- What a name gives for a thing of a class. -/
def ofThing (f : Found) (c receiver : Thing) : Option Thing :=
  match f.kind with
  | .operator =>
    some (.other "method-wrapper" [(Thing.receiverName, receiver), (Thing.ownerName, f.owner)])
  | .function isDescribed hasSignature => some (.hostFunction isDescribed hasSignature receiver)
  | .classFunction hasSignature => some (.hostFunction true hasSignature c)
  | .freeFunction ofClass => some (.hostFunction true true (.onlyIf ofClass f.owner))
  | .method traits => some (.method traits receiver)
  | .freeMethod traits => some (.function traits)
  | .classMethod traits => some (.method traits c)
  | .part _ gives => gives
  | .constant t => some t

/-- What a name gives for the class itself. -/
def ofClass (f : Found) (c : Thing) : Thing :=
  match f.kind with
  | .operator => .other "wrapper_descriptor" [(Thing.ownerName, f.owner)]
  | .function isDescribed hasSignature =>
    .other "method_descriptor"
      [(Thing.ownerName, f.owner), Thing.description isDescribed, Thing.signature hasSignature]
  | .classFunction hasSignature => .hostFunction true hasSignature c
  | .freeFunction ofClass => .hostFunction true true (.onlyIf ofClass f.owner)
  | .method traits | .freeMethod traits => .function traits
  | .classMethod traits => .method traits c
  | .part access _ => access.thing f.owner
  | .constant t => t

end Found

namespace Thing

/-! ## What things hold -/

/-- The description of a class, or what the class has under that name for its values. -/
def classDescription (c : Thing) (described : HostClass) : Thing :=
  if described.isDescribed then text
  else (search "__doc__" [c]).elim nothing fun f => f.ofClass c

/-- What a class holds. -/
def classParts (c : Thing) (described : HostClass) : List (String × Thing) :=
  [("__base__", (c.ancestors.head?).elim nothing fun name => classNamed name []),
    ("__bases__", tupleIf !c.ancestors.isEmpty), ("__doc__", classDescription c described),
    signature described.hasSignature] ++
  (if described.isWritten then [("__annotations__", dictionary)] else []) ++
  (if described.isAbstract then [("__abstractmethods__", frozenSet)] else [])

/-- What a thing holds. -/
def held (t : Thing) : List (String × Thing) :=
  match t.asClass? with
  | some (hostClass name added isAbstract) =>
    (HostClass.named? name).elim [] (classParts (.hostClass name added isAbstract))
  | _ =>
    match t with
    | value v => valueParts v
    | loaded attributes =>
      ((attributes.lookup "__annotations__").map fun v => ("__annotations__", value v)).toList
    | other _ held => held
    | _ => []

/-- The name under which every thing gives its class. -/
def className : String := "__class__"

/-! ## Members of things -/

/-- What a thing gives for a name through its class, once it holds nothing under that name. -/
def viaClass? (name : String) (t : Thing) : Option Thing :=
  match search name t.classOf.lineage with
  | some f =>
    if f.isPart then f.ofThing t.classOf t
    else
      (t.attribute? name).or <|
        (t.asClass?.bind fun c => (search name c.lineage).map fun g => g.ofClass c).or <|
          f.ofThing t.classOf t
  | none =>
    (t.attribute? name).or (t.asClass?.bind fun c => (search name c.lineage).map (·.ofClass c))

/-- What a thing itself gives for a name. -/
def direct? (name : String) (t : Thing) : Option Thing :=
  if name = className then some t.classOf else (t.held.lookup name).or (t.viaClass? name)

/-- What a thing gives for a name; a written function that belongs to something gives what the
function gives, too. -/
def member? (name : String) (t : Thing) : Option Thing :=
  (t.direct? name).or <|
    if t.typeName = "method" then (t.held.lookup functionName).bind (direct? name) else none

/-- Where a path of names leads from a thing. -/
def follow? : List String → Thing → Option Thing
  | [], t => some t
  | name :: path, t => (t.member? name).bind (follow? path)

end Thing

end NamedConditions

import SnippetCost.Target.Basic

/-!
# Catalogs of targets

A catalog is a list of targets that passed admission: each has an id, a label and a family, each either
names a CPU or stands for the native one and not both, and no two share an id.  The order of the list is
kept.  `Catalog.ofList` builds one or says what is wrong with the first target that does not fit.
-/

namespace SnippetCost

/-- Why a target is not admitted to a catalog. -/
inductive AdmissionFault where
  | emptyId
  | noLabel (id : String)
  | noFamily (id : String)
  /-- Names a CPU and stands for the native one, or does neither. -/
  | cpuChoice (id : String)
  | duplicateId (id : String)
  deriving DecidableEq, Repr

/-- The message about a target that is not admitted. -/
def AdmissionFault.message : AdmissionFault → String
  | .emptyId => "Target id must not be empty"
  | .noLabel id => "Target " ++ id ++ " has no label"
  | .noFamily id => "Target " ++ id ++ " has no family"
  | .cpuChoice id =>
    "Target " ++ id ++ " must set exactly one of an explicit CPU or native auto-detection"
  | .duplicateId id => "Duplicate target id: " ++ id

/-- What is wrong with a target on its own. -/
def Target.fault? (t : Target) : Option AdmissionFault :=
  if t.id = "" then some .emptyId
  else if t.label = "" then some (.noLabel t.id)
  else if t.family = "" then some (.noFamily t.id)
  else if t.namesCpu = t.nativeAuto then some (.cpuChoice t.id)
  else none

/-- What is wrong with the first target of a list that does not fit, where targets with the ids `seen`
stand before the list. -/
def firstFault? (seen : List String) : List Target → Option AdmissionFault
  | [] => none
  | t :: ts =>
    match t.fault? with
    | some fault => some fault
    | none => if t.id ∈ seen then some (.duplicateId t.id) else firstFault? (t.id :: seen) ts

/-- An ordered collection of targets that fit together. -/
structure Catalog where
  targets : List Target
  admitted : firstFault? [] targets = none

namespace Catalog

/-- The catalog of some targets, in their order. -/
def ofList (targets : List Target) : Except AdmissionFault Catalog :=
  match h : firstFault? [] targets with
  | some fault => .error fault
  | none => .ok ⟨targets, h⟩

/-- The ids, in order. -/
def ids (c : Catalog) : List String :=
  c.targets.map Target.id

/-- The number of targets. -/
def size (c : Catalog) : Nat :=
  c.targets.length

/-- The target with an id. -/
def get? (c : Catalog) (id : String) : Option Target :=
  c.targets.find? (·.id == id)

/-- The target with an id, or the one that stands in for it if there is none. -/
def getD (c : Catalog) (id : String) (standIn : Target) : Target :=
  (c.get? id).getD standIn

/-- Is there a target with this id? -/
def contains (c : Catalog) (id : String) : Bool :=
  (c.get? id).isSome

/-- Each family of the catalog once, in the order in which they first occur. -/
def families (c : Catalog) : List String :=
  c.targets.foldl (fun seen t => if t.family ∈ seen then seen else seen ++ [t.family]) []

end Catalog

end SnippetCost

import Conformance.Constraint.Basic

/-! Merging constraints in the order of application. A rule that allows takes entries away from
the rule that forbids; a singleton rule keeps its latest constraint; lists of one rule and
severity unite; an entry belongs to the severity that named it last. -/
namespace Conformance.Merge

def isEmptyList : ConstraintValue → Bool
  | .list [] => true
  | _ => false

/-- Take entries out of a list value. -/
def dropEntries (entries : List String) : ConstraintValue → ConstraintValue
  | .list items => .list (items.filter fun i => !entries.contains i)
  | value => value

/-- Take allowed entries away from the constraints of a rule. -/
def negate (acc : List Constraint) (target : Rule) (allowed : List String) : List Constraint :=
  (acc.map fun c =>
    if c.rule = target.name then { c with value := dropEntries allowed c.value } else c).filter
    fun c => c.rule ≠ target.name ||
      match c.value with
      | .list items => !items.isEmpty
      | .text s => !allowed.contains s
      | _ => true

/-- Put a constraint in the place of the first that is like it, or at the end. -/
def replaceOrAppend (like : Constraint → Bool) (c : Constraint) : List Constraint → List Constraint
  | [] => [c]
  | first :: rest =>
    if like first then c :: rest else first :: replaceOrAppend like c rest

/-- Entries of the new list leave the lists of the same rule with another severity; lists left
empty go. -/
def yieldEntries (acc : List Constraint) (c : Constraint) (items : List String) :
    List Constraint :=
  let other (e : Constraint) : Bool := e.rule = c.rule && e.severity ≠ c.severity
  (acc.map fun e => if other e then { e with value := dropEntries items e.value } else e).filter
    fun e => !(other e && isEmptyList e.value)

/-- The items of the first list and the new ones of the second. -/
def unite (items new : List String) : List String :=
  new.foldl (fun acc i => if acc.contains i then acc else acc ++ [i]) items

def isList : ConstraintValue → Bool
  | .list _ => true
  | _ => false

/-- Merge a list constraint: it takes in the earlier list of the same rule and severity. -/
def mergeList (acc : List Constraint) (c : Constraint) (items : List String) : List Constraint :=
  let acc := yieldEntries acc c items
  let same (e : Constraint) : Bool :=
    e.rule = c.rule && e.severity = c.severity && isList e.value
  match acc.find? same with
  | some { value := .list earlier, .. } =>
    replaceOrAppend same { c with value := .list (unite earlier items) } acc
  | _ => acc ++ [c]

/-- Merge one constraint into those before it. -/
def merge (acc : List Constraint) (c : Constraint) : List Constraint :=
  let acc := match c.rule?.bind Rule.negates?, c.value.toList? with
    | some target, some allowed => negate acc target allowed
    | _, _ => acc
  if (c.rule?.map Rule.isSingleton).getD false then
    replaceOrAppend (fun e => e.rule = c.rule) c acc
  else
    match c.value with
    | .list items => mergeList acc c items
    | _ => replaceOrAppend (fun e => e.rule = c.rule && e.value = c.value) c acc

/-- Merge constraints in order. -/
def mergeAll (acc : List Constraint) (cs : List Constraint) : List Constraint := cs.foldl merge acc

end Conformance.Merge

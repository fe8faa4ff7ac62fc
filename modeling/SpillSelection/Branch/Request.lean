import SpillSelection.Catalog
/-!
# Requests

What a configuration asks for: cuts by name, object and parameters, and a variable by name and
parameters, perhaps of the particle that a selector picks. A `!` in front of a cut's name
inverts it. `SelectionError` says why a request cannot be met; every error is found before any
spill is read.
-/

namespace SpillSelection

structure CutEntry where
  /-- The base name, after a `!` when the cut is inverted. -/
  name : String
  object : CutObject
  parameters : List Float := []
  decrementsExposure : Bool := false
deriving DecidableEq

structure VariableEntry where
  name : String
  parameters : List Float := []
  selector : Option String := none
deriving DecidableEq

inductive SelectionError where
  | registry (error : RegistryError)
  | arity (error : ArityError)
  /-- The cut is about objects that are not visited in this use. -/
  | cutNotApplicable (cut : String) (object : CutObject) (use : String)
  | illegalTarget (target : Target) (variableName : String) (mode : Mode)
  | emptyName (what : String)
  /-- A selector picks a particle of an interaction of one side, which the target is not. -/
  | unknownSelector (selector : String) (target : Target)
deriving DecidableEq, Repr

def SelectionError.message : SelectionError → String
  | .registry error => error.message
  | .arity error => error.message
  | .cutNotApplicable cut object use =>
    "cut `" ++ cut ++ "` of type `" ++ object.text ++ "` cannot be applied in `" ++ use ++ "` mode"
  | .illegalTarget target variableName mode =>
    "illegal variable type `" ++ target.text ++ "` for variable `" ++ variableName ++ "` in `" ++
      mode.text ++ "` mode"
  | .emptyName what => "empty " ++ what ++ " name"
  | .unknownSelector selector target =>
    "selector `" ++ selector ++ "` cannot be used with variable type `" ++ target.text ++ "`"

/-- The name of a branch: the target or, with a selector, the side and the selector, and then
the variable. -/
def VariableEntry.branchName (v : VariableEntry) (target : Target) : String :=
  match v.selector, target.side? with
  | some selector, some s => s.text ++ "_" ++ selector ++ "_" ++ v.name
  | _, _ => target.text ++ "_" ++ v.name

/-! ## Looking up and binding -/

/-- A cut's base name, and whether a `!` stands before it. -/
def baseName (name : String) : String × Bool :=
  match name.toList with
  | '!' :: base => (String.ofList base, true)
  | _ => (name, false)

/-- Inverts a predicate, or leaves it as it is. -/
def invertIf {α : Type} (inverted : Bool) (passes : α → Bool) : α → Bool :=
  fun a => passes a != inverted

/-- Whether every predicate of a list holds. -/
def passesAll {α : Type} (cuts : List (α → Bool)) (a : α) : Bool :=
  cuts.all fun passes => passes a

namespace Tables

/-- The function of a base name for an object type, with its parameters. -/
def bind (t : Tables R) (o : ObjectType) (base : String) (parameters : List Float) :
    Except SelectionError (o.Carrier → R) := do
  let f ← (t.lookup o base).mapError .registry
  (f.bind base parameters).mapError .arity

end Tables

namespace Catalog

/-- The predicate of a cut name; `what` is the kind of name in an error about it. -/
def bindCut (c : Catalog) (what : String) (o : ObjectType) (name : String)
    (parameters : List Float) : Except SelectionError (o.Carrier → Bool) :=
  let (base, inverted) := baseName name
  if base = "" then .error (.emptyName what)
  else invertIf inverted <$> c.cutTables.bind o base parameters

/-- The function of a variable for an object type. -/
def bindVariable (c : Catalog) (o : ObjectType) (v : VariableEntry) :
    Except SelectionError (o.Carrier → Float) :=
  c.variableTables.bind o v.name v.parameters

end Catalog

end SpillSelection

/-!
# Functions with parameters

A cut or a variable is a function of an object that may want numbers from the configuration
first. A `Signature` is such a function with the parameter counts it takes; `bind` gives it its
parameters, and refuses a list of the wrong length before any object is seen.
-/

namespace SpillSelection

/-- The parameter counts that a function takes. -/
inductive Arity where
  | exactly (count : Nat)
  | anyOf (counts : List Nat)
  | atLeast (count : Nat)
  | any
deriving DecidableEq, Repr

namespace Arity

def admits : Arity → Nat → Bool
  | .exactly n, count => count == n
  | .anyOf counts, count => counts.contains count
  | .atLeast n, count => n ≤ count
  | .any, _ => true

/-- The counts in words, as in "expects … parameter(s)". -/
def text : Arity → String
  | .exactly n => toString n
  | .anyOf counts => " or ".intercalate (counts.map toString)
  | .atLeast n => "at least " ++ toString n
  | .any => "any number of"

end Arity

/-- A parameter list whose length the function of this name does not take. -/
structure ArityError where
  name : String
  expected : Arity
  got : Nat
deriving DecidableEq, Repr

def ArityError.message (e : ArityError) : String :=
  "`" ++ e.name ++ "` expects " ++ e.expected.text ++ " parameter(s), got " ++ toString e.got

/-- A function of an object, perhaps after parameters. -/
inductive Signature (T R : Type) where
  /-- Takes no parameters. -/
  | plain (call : T → R)
  | parameterized (arity : Arity) (call : List Float → T → R)
  /-- Assembled from a configuration, with its parameters given. -/
  | bound (call : T → R)
  /-- Assembled from another signature. -/
  | derived (arity : Arity) (call : List Float → T → R)

namespace Signature

variable {T R : Type}

def arity : Signature T R → Arity
  | .plain _ | .bound _ => .exactly 0
  | .parameterized arity _ | .derived arity _ => arity

/-- The function for given parameters. -/
def apply : Signature T R → List Float → T → R
  | .plain call, _ | .bound call, _ => call
  | .parameterized _ call, parameters | .derived _ call, parameters => call parameters

def bind (f : Signature T R) (name : String) (parameters : List Float) :
    Except ArityError (T → R) :=
  if f.arity.admits parameters.length then .ok (f.apply parameters)
  else .error ⟨name, f.arity, parameters.length⟩

/-- Applies a function to the results. What is assembled from a written function is derived. -/
def map (g : R → S) : Signature T R → Signature T S
  | .plain call => .derived (.exactly 0) fun _ t => g (call t)
  | .parameterized arity call | .derived arity call =>
    .derived arity fun parameters t => g (call parameters t)
  | .bound call => .bound fun t => g (call t)

@[simp] theorem arity_map (g : R → S) (f : Signature T R) : (f.map g).arity = f.arity := by
  cases f <;> rfl

@[simp] theorem apply_map (g : R → S) (f : Signature T R) (parameters : List Float) (t : T) :
    (f.map g).apply parameters t = g (f.apply parameters t) := by
  cases f <;> rfl

end Signature

end SpillSelection

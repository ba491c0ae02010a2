import QuantityCalculator.Bindings
import QuantityCalculator.Evaluation.Function

/-!
Environments: frames of variables, searched from the innermost one outwards, and one table of
functions.
-/

namespace QuantityCalculator

abbrev Frame := Bindings Quantity

/-- The frames of the calls that are going on, innermost first, and the frame of the session. -/
structure Environment where
  locals : List Frame := []
  globals : Frame := []
  functions : Bindings Function

namespace Environment

def builtins : Bindings Function :=
  Builtin.all.map fun f => (f.name, .builtin f)

def empty : Environment where
  functions := builtins

def frames (env : Environment) : List Frame :=
  env.locals ++ [env.globals]

def depth (env : Environment) : Nat :=
  env.frames.length

def get? (env : Environment) (name : String) : Option Quantity :=
  match env.locals.findSome? (·.get? name) with
  | some q => some q
  | none => env.globals.get? name

theorem get?_eq_findSome?_frames (env : Environment) (name : String) :
    env.get? name = env.frames.findSome? (·.get? name) := by
  rw [get?, frames]
  cases h : env.locals.findSome? (·.get? name) <;> simp [List.findSome?_append, h]

def lookupVariable (env : Environment) (name : String) : Except Error Quantity :=
  match env.get? name with
  | some q => .ok q
  | none => .error (.undefinedName name)

def define (env : Environment) (name : String) (q : Quantity) : Environment :=
  match env.locals with
  | [] => { env with globals := env.globals.insert name q }
  | frame :: frames => { env with locals := frame.insert name q :: frames }

def push (env : Environment) (frame : Frame) : Environment :=
  { env with locals := frame :: env.locals }

def pop (env : Environment) : Environment :=
  { env with locals := env.locals.tail }

def lookupFunction (env : Environment) (name : String) : Except Error Function :=
  match env.functions.get? name with
  | some f => .ok f
  | none => .error (.undefinedName name)

/-- Replaces a function of the same name, also a builtin one. -/
def defineFunction (env : Environment) (f : UserFunction) : Environment :=
  { env with functions := env.functions.insert f.name (.user f) }

def withConstants : Environment :=
  ((empty.define "pi" (.dimensionless 3.141592653589793)).define
    "e" (.dimensionless 2.718281828459045)).define
    "tau" (.dimensionless 6.283185307179586)

end Environment

end QuantityCalculator

import ScalarExpr.Function.Class
import ScalarExpr.Text.Quoted
/-!
Registries: function classes by name, whatever the case of the name.
-/
namespace ScalarExpr

/-- The classes by lowercase name, in the order of the names. -/
structure FunctionRegistry where
  entries : List (String × FunctionClass) := []

namespace FunctionRegistry

def empty : FunctionRegistry := {}

/-- Puts a class in the place of its name. -/
def insert (name : String) (c : FunctionClass) :
    List (String × FunctionClass) → List (String × FunctionClass)
  | [] => [(name, c)]
  | (n, d) :: rest =>
    if name < n then (name, c) :: (n, d) :: rest
    else if name = n then (name, c) :: rest
    else (n, d) :: insert name c rest

/-- Adds a class; one with the same name gives way. -/
def register (r : FunctionRegistry) (c : FunctionClass) : FunctionRegistry :=
  ⟨insert (Text.lower c.name) c r.entries⟩

def registerAll (r : FunctionRegistry) (cs : List FunctionClass) : FunctionRegistry :=
  cs.foldl register r

def builtins : FunctionRegistry := empty.registerAll FunctionClass.builtins

def find? (r : FunctionRegistry) (name : String) : Option FunctionClass :=
  (r.entries.find? (·.1 = name)).map (·.2)

/-- The class of a name, tried as it is and then in lowercase. -/
def lookup (r : FunctionRegistry) (name : String) : Option FunctionClass :=
  (r.find? name).or (r.find? (Text.lower name))

def contains (r : FunctionRegistry) (name : String) : Bool := (r.lookup name).isSome

def names (r : FunctionRegistry) : List String := r.entries.map (·.1)

def size (r : FunctionRegistry) : Nat := r.entries.length

def isEmpty (r : FunctionRegistry) : Bool := r.entries.isEmpty

def text (r : FunctionRegistry) : String :=
  "FunctionRegistry \x7b functions: [" ++ ", ".intercalate (r.names.map Text.quoted) ++ "] \x7d"

end FunctionRegistry
end ScalarExpr

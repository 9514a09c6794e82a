import StreamPlan.Error

/-!
# Functions

Scalar functions and the registry that finds them by name.  The case of ASCII
letters in a name does not matter.

Main results:

- `Registry.find?_register_self`, `Registry.find?_register_of_ne`: what registering
  changes.
- `Registry.find?_of_asciiUpper_eq`: the case of a name does not matter.
-/

namespace StreamPlan

/-- A scalar function: its own name, the type it returns for argument types it
accepts, and its value on arguments. -/
structure ScalarFunction where
  name : String
  returnType : List DataType → Except Error DataType
  invoke : List Value → Except Error Value

/-- Functions by their names in capitals, in the order of the names. -/
structure Registry where
  entries : List (String × ScalarFunction)

namespace Registry

/-- A registry without functions. -/
def empty : Registry := ⟨[]⟩

/-- The function of the first entry under a key. -/
def findIn? (key : String) : List (String × ScalarFunction) → Option ScalarFunction
  | [] => none
  | entry :: rest => if entry.1 = key then some entry.2 else findIn? key rest

/-- The function with a name, whatever the case of its letters. -/
def find? (registry : Registry) (name : String) : Option ScalarFunction :=
  findIn? (Text.asciiUpper name) registry.entries

/-- Put an entry at its place in the order of names, in place of one of that name. -/
def insertEntry (key : String) (function : ScalarFunction) :
    List (String × ScalarFunction) → List (String × ScalarFunction)
  | [] => [(key, function)]
  | entry :: rest =>
    if entry.1 = key then (key, function) :: rest
    else if key < entry.1 then (key, function) :: entry :: rest
    else entry :: insertEntry key function rest

/-- Add a function, in place of one of the same name. -/
def register (registry : Registry) (function : ScalarFunction) : Registry :=
  ⟨insertEntry (Text.asciiUpper function.name) function registry.entries⟩

/-- Remove the function with a name. -/
def deregister (registry : Registry) (name : String) : Registry :=
  ⟨registry.entries.filter fun entry => entry.1 != Text.asciiUpper name⟩

/-- Whether a function with the name is registered. -/
def contains (registry : Registry) (name : String) : Bool := (registry.find? name).isSome

/-- The names of the functions, in order. -/
def names (registry : Registry) : List String := registry.entries.map (·.1)

/-- The number of functions. -/
def size (registry : Registry) : Nat := registry.entries.length

/-- The registry in messages. -/
def debugText (registry : Registry) : String :=
  "InMemoryFunctionRegistry \x7b functions: " ++ toString registry.size ++ " \x7d"

/-- The function with a name and its return type for argument types.  Types that the
function does not accept are reported under its name. -/
def resolve (registry : Registry) (name : String) (types : List DataType) :
    Except Error (ScalarFunction × DataType) :=
  match registry.find? name with
  | none => .error (.typing (.unknownFunction name))
  | some function =>
    match function.returnType types with
    | .ok type => .ok (function, type)
    | .error e =>
      .error (if e.kind = .typeResolution then .within (Text.asciiUpper name) e else e)

/-! ## Looking up -/

/-- An inserted entry is found under its key, and nothing else changes. -/
theorem findIn?_insertEntry (key other : String) (function : ScalarFunction)
    (entries : List (String × ScalarFunction)) :
    findIn? other (insertEntry key function entries) =
      if key = other then some function else findIn? other entries := by
  induction entries with
  | nil => simp [insertEntry, findIn?]
  | cons entry rest ih =>
    by_cases hname : entry.1 = key
    · by_cases ho : key = other <;> simp [insertEntry, findIn?, hname, ho]
    · by_cases hlt : key < entry.1
      · simp [insertEntry, findIn?, hname, hlt]
      · by_cases ho : key = other
        · subst ho
          simp [insertEntry, findIn?, hname, hlt, ih]
        · simp [insertEntry, findIn?, hname, hlt, ih, ho]

/-- An entry under another key survives a removal, and the removed key is gone. -/
theorem findIn?_filter (key other : String) (entries : List (String × ScalarFunction)) :
    findIn? other (entries.filter fun entry => entry.1 != key) =
      if key = other then none else findIn? other entries := by
  induction entries with
  | nil => simp [findIn?]
  | cons entry rest ih =>
    by_cases hname : entry.1 = key
    · by_cases ho : key = other
      · subst ho
        simp [hname, ih]
      · simp [hname, findIn?, ih, ho]
    · by_cases ho : key = other
      · subst ho
        simp [hname, findIn?, ih]
      · simp [hname, findIn?, ih, ho]

/-- A registered function is found under its name. -/
theorem find?_register_self (registry : Registry) (function : ScalarFunction) :
    (registry.register function).find? function.name = some function := by
  simp [find?, register, findIn?_insertEntry]

/-- Registering changes no other name. -/
theorem find?_register_of_ne {registry : Registry} {function : ScalarFunction}
    {name : String} (h : Text.asciiUpper name ≠ Text.asciiUpper function.name) :
    (registry.register function).find? name = registry.find? name := by
  simp [find?, register, findIn?_insertEntry, Ne.symm h]

/-- The case of a name does not matter. -/
theorem find?_of_asciiUpper_eq {registry : Registry} {a b : String}
    (h : Text.asciiUpper a = Text.asciiUpper b) : registry.find? a = registry.find? b := by
  simp [find?, h]

end Registry

end StreamPlan

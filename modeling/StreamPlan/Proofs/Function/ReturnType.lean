import Mathlib.Data.List.Forall2
import StreamPlan.Function.Builtin
import StreamPlan.Proofs.Conformance
import StreamPlan.Proofs.Outcome

/-!
# Return types of functions

A function keeps its types when, on arguments that fit types it accepts, whatever it
returns fits the type it declares.  The built-in functions do so, and beyond that
never fail on such arguments except by an integer overflow.

Main results:

- `Builtin.answers_of_mem_all`: what a built-in function gives on arguments that fit.
- `Builtin.keepsTypes_of_mem_all`, `Builtin.failsByOverflow_of_mem_all`: the built-in
  functions keep their types and fail by overflows only.
- `Registry.forall_find?_registerAll`: what holds of all functions of a registry.
- `Registry.keepsTypes_registerAll`: a registry of functions that keep their types.
-/

namespace StreamPlan

/-- Whatever the function returns on arguments of accepted types fits its return type. -/
def ScalarFunction.KeepsTypes (function : ScalarFunction) : Prop :=
  ∀ types type arguments, function.returnType types = .ok type →
    List.Forall₂ Value.Fits arguments types →
    ∀ v, function.invoke arguments = .ok v → v.Fits type

/-- On arguments of accepted types the function fails by an integer overflow or not at
all. -/
def ScalarFunction.FailsByOverflow (function : ScalarFunction) : Prop :=
  ∀ types type arguments, function.returnType types = .ok type →
    List.Forall₂ Value.Fits arguments types →
    ∀ e, function.invoke arguments = .error e → e = .evaluation .integerOverflow

/-- Every function that a registry finds keeps its types. -/
def Registry.KeepsTypes (registry : Registry) : Prop :=
  ∀ name function, registry.find? name = some function → function.KeepsTypes

namespace Builtin

/-! ## Signatures -/

/-- An accepted number of arguments. -/
theorem accepts_of_requireArity {arity : Arity} {types : List DataType} {u : Unit}
    (h : requireArity arity types = .ok u) : arity.accepts types.length = true := by
  unfold requireArity at h
  split at h
  · assumption
  · cases h

/-- A single argument. -/
theorem eq_singleton_of_requireArity {types : List DataType} {u : Unit}
    (h : requireArity (.exactly 1) types = .ok u) : ∃ type, types = [type] := by
  have hlen : types.length = 1 := by
    simpa [Arity.accepts] using accepts_of_requireArity h
  exact List.length_eq_one_iff.1 hlen

/-- A function of one string accepts one string type and has a fixed result. -/
theorem ofString_eq_ok {result type : DataType} {types : List DataType}
    (h : ofString result types = .ok type) :
    type = result ∧ ∃ argument, types = [argument] ∧ isString argument = true := by
  obtain ⟨_, harity, h⟩ := bind_eq_ok_iff.1 h
  obtain ⟨argument, rfl⟩ := eq_singleton_of_requireArity harity
  dsimp only [List.headD_cons] at h
  split at h
  · rename_i hs
    exact ⟨(Except.ok.inj h).symm, argument, rfl, hs⟩
  · cases h

/-- A function of several strings accepts string types and returns a string. -/
theorem ofStrings_eq_ok {type : DataType} {types : List DataType}
    (h : ofStrings types = .ok type) :
    type = .utf8 ∧ ∀ argument ∈ types, isString argument = true := by
  obtain ⟨_, -, h⟩ := bind_eq_ok_iff.1 h
  split at h
  · cases h
  · rename_i hfind
    refine ⟨(Except.ok.inj h).symm, fun argument hmem => ?_⟩
    simpa using List.find?_eq_none.1 hfind argument hmem

/-- A magnitude has the type of its argument, or is a double for an untyped null. -/
theorem ofMagnitude_eq_ok {type : DataType} {types : List DataType}
    (h : ofMagnitude types = .ok type) :
    types = [.null] ∨ (types = [type] ∧ type.isNumeric = true) := by
  obtain ⟨_, harity, h⟩ := bind_eq_ok_iff.1 h
  obtain ⟨argument, rfl⟩ := eq_singleton_of_requireArity harity
  dsimp only [List.headD_cons] at h
  split at h
  · exact Or.inl rfl
  · split at h
    · rename_i hnum
      obtain rfl := Except.ok.inj h
      exact Or.inr ⟨rfl, hnum⟩
    · cases h

/-- Rounding accepts one number or an untyped null and returns an integer. -/
theorem ofRounding_eq_ok {type : DataType} {types : List DataType}
    (h : ofRounding types = .ok type) :
    type = .int64 ∧ ∃ argument, types = [argument] ∧
      (argument = .null ∨ argument.isNumeric = true) := by
  obtain ⟨_, harity, h⟩ := bind_eq_ok_iff.1 h
  obtain ⟨argument, rfl⟩ := eq_singleton_of_requireArity harity
  dsimp only [List.headD_cons] at h
  split at h
  · rename_i hnum
    refine ⟨(Except.ok.inj h).symm, argument, rfl, ?_⟩
    simpa using hnum
  · cases h

/-- Cutting accepts a string and one or two integers and returns a string. -/
theorem ofCut_eq_ok {type : DataType} {types : List DataType}
    (h : ofCut types = .ok type) :
    type = .utf8 ∧ ∃ text positions, types = text :: positions ∧ isString text = true ∧
      (positions.length = 1 ∨ positions.length = 2) ∧
      ∀ position ∈ positions, isInteger position = true := by
  obtain ⟨_, harity, h⟩ := bind_eq_ok_iff.1 h
  have hlen := accepts_of_requireArity harity
  simp only [Arity.accepts, Bool.and_eq_true, decide_eq_true_eq] at hlen
  split at h
  · rename_i hcond
    obtain rfl := Except.ok.inj h
    cases types with
    | nil => simp at hlen
    | cons text positions =>
      simp only [List.headD_cons, List.tail_cons, Bool.and_eq_true, List.all_eq_true] at hcond
      simp only [List.length_cons] at hlen
      exact ⟨rfl, text, positions, rfl, hcond.1, by omega, hcond.2⟩
  · cases h

/-! ## Arguments -/

/-- A value that is not null and fits a string type is a string. -/
theorem exists_utf8_of_fits {v : Value} {type : DataType} (hv : v ≠ .null)
    (hfit : v.Fits type) (htype : isString type = true) : ∃ s, v = .utf8 s := by
  have hdt : v.dataType = type := hfit.resolve_left hv
  subst hdt
  cases v <;> simp_all [isString, Value.dataType, DataType.timeOfDay]

/-- A value that is not null and fits an integer type holds an integer. -/
theorem exists_toInt?_of_fits {v : Value} {type : DataType} (hv : v ≠ .null)
    (hfit : v.Fits type) (htype : isInteger type = true) : ∃ n, v.toInt? = some n := by
  have hdt : v.dataType = type := hfit.resolve_left hv
  subst hdt
  cases v <;> simp_all [isInteger, Value.dataType, Value.toInt?, DataType.timeOfDay]

/-- A string argument is read as its text. -/
theorem stringArgument_of_getElem? {arguments : List Value} {i : Nat} {s : String}
    (h : arguments[i]? = some (.utf8 s)) : stringArgument arguments i = .ok s := by
  simp [stringArgument, argument, List.getD_eq_getElem?_getD, h, Value.toText?]

/-- An integer argument is read as its number. -/
theorem integerArgument_of_getElem? {arguments : List Value} {i : Nat} {v : Value} {n : Int}
    (hi : arguments[i]? = some v) (hv : v.toInt? = some n) :
    integerArgument arguments i = .ok n := by
  simp [integerArgument, argument, List.getD_eq_getElem?_getD, hi, hv]

/-- Reading several string arguments succeeds when each of them is a string. -/
theorem exists_mapM_stringArgument {arguments : List Value} {positions : List Nat}
    (h : ∀ i ∈ positions, ∃ s, stringArgument arguments i = .ok s) :
    ∃ texts, positions.mapM (stringArgument arguments) = .ok texts := by
  induction positions with
  | nil => exact ⟨[], rfl⟩
  | cons i rest ih =>
    obtain ⟨s, hs⟩ := h i List.mem_cons_self
    obtain ⟨texts, htexts⟩ := ih fun j hj => h j (List.mem_cons_of_mem i hj)
    refine ⟨s :: texts, ?_⟩
    rw [List.mapM_cons, hs, htexts]
    rfl

/-! ## Bodies -/

/-- The outcome is a value that fits the type, or an integer overflow. -/
def Answers (type : DataType) (outcome : Except Error Value) : Prop :=
  (∃ v, outcome = .ok v ∧ v.Fits type) ∨ outcome = .error (.evaluation .integerOverflow)

/-- A value of the type answers. -/
theorem answers_ok {type : DataType} {v : Value} (h : v.dataType = type) :
    Answers type (.ok v) :=
  Or.inl ⟨v, rfl, Or.inr h⟩

/-- An integer result answers whether it fits or not. -/
theorem answers_orOverflow {type : DataType} {result : Option Value}
    (h : ∀ v, result = some v → v.dataType = type) : Answers type (orOverflow result) := by
  cases result with
  | none => exact Or.inr rfl
  | some v => exact answers_ok (h v rfl)

/-- A body fulfils a signature when it answers all arguments that fit accepted types and
are not null. -/
def Fulfils (signature : List DataType → Except Error DataType)
    (body : List Value → Except Error Value) : Prop :=
  ∀ types type arguments, signature types = .ok type →
    List.Forall₂ Value.Fits arguments types → (∀ v ∈ arguments, v ≠ .null) →
    Answers type (body arguments)

/-- Null in place of any argument makes the answer null, whatever the body does. -/
theorem answers_strict {signature : List DataType → Except Error DataType}
    {body : List Value → Except Error Value} (hbody : Fulfils signature body)
    {types : List DataType} {type : DataType} {arguments : List Value}
    (htype : signature types = .ok type) (hfit : List.Forall₂ Value.Fits arguments types) :
    Answers type (strict body arguments) := by
  by_cases hnull : Value.null ∈ arguments
  · rw [strict_of_null hnull]
    exact Or.inl ⟨.null, rfl, Value.null_fits type⟩
  · have hpresent : ∀ v ∈ arguments, v ≠ .null := fun v hv he => hnull (he ▸ hv)
    have hany : arguments.any Value.isNull = false := by
      rw [List.any_eq_false]
      intro v hv
      rw [Value.isNull_iff]
      exact hpresent v hv
    rw [strict, hany]
    exact hbody types type arguments htype hfit hpresent

/-- Arguments that are there for one string type are one string. -/
theorem exists_eq_singleton_utf8 {arguments : List Value} {type : DataType}
    (hfit : List.Forall₂ Value.Fits arguments [type]) (htype : isString type = true)
    (hpresent : ∀ v ∈ arguments, v ≠ .null) : ∃ s, arguments = [.utf8 s] := by
  cases hfit with
  | cons hv hrest =>
    cases hrest
    obtain ⟨s, rfl⟩ := exists_utf8_of_fits (hpresent _ List.mem_cons_self) hv htype
    exact ⟨s, rfl⟩

/-- A function of the characters of a string answers with a string. -/
theorem fulfils_onCharacters (f : List Char → List Char) :
    Fulfils (ofString .utf8) (onCharacters f) := by
  intro types type arguments h hfit hpresent
  obtain ⟨rfl, argument, rfl, hs⟩ := ofString_eq_ok h
  obtain ⟨s, rfl⟩ := exists_eq_singleton_utf8 hfit hs hpresent
  exact answers_ok rfl

/-- A length is a 32-bit integer. -/
theorem fulfils_length : Fulfils (ofString .int32) length := by
  intro types type arguments h hfit hpresent
  obtain ⟨rfl, argument, rfl, hs⟩ := ofString_eq_ok h
  obtain ⟨s, rfl⟩ := exists_eq_singleton_utf8 hfit hs hpresent
  exact answers_ok rfl

/-- Strings one after the other are a string. -/
theorem fulfils_concat : Fulfils ofStrings concat := by
  intro types type arguments h hfit hpresent
  obtain ⟨rfl, hstrings⟩ := ofStrings_eq_ok h
  have hread : ∀ i ∈ List.range arguments.length, ∃ s, stringArgument arguments i = .ok s := by
    intro i hi
    have hlt : i < arguments.length := List.mem_range.1 hi
    have hlt' : i < types.length := hfit.length_eq ▸ hlt
    obtain ⟨s, hs⟩ := exists_utf8_of_fits (hpresent _ (List.getElem_mem hlt))
      (hfit.get hlt hlt') (hstrings _ (List.getElem_mem hlt'))
    refine ⟨s, stringArgument_of_getElem? ?_⟩
    rw [List.getElem?_eq_getElem hlt]
    exact congrArg some hs
  obtain ⟨texts, htexts⟩ := exists_mapM_stringArgument hread
  rw [concat, htexts]
  exact answers_ok rfl

/-- A magnitude is of the type of the number, if it fits. -/
theorem fulfils_magnitude : Fulfils ofMagnitude magnitude := by
  intro types type arguments h hfit hpresent
  rcases ofMagnitude_eq_ok h with rfl | ⟨rfl, hnum⟩
  · cases hfit with
    | cons hv _ => exact absurd (Value.fits_null_iff.1 hv) (hpresent _ List.mem_cons_self)
  · cases hfit with
    | @cons v _ _ _ hv hrest =>
      cases hrest
      obtain rfl := hv.resolve_left (hpresent v List.mem_cons_self)
      cases v with
      | int32 n =>
        change Answers _ (orOverflow ((Word.int32? n.toInt.natAbs).map .int32))
        refine answers_orOverflow fun w hw => ?_
        obtain ⟨_, -, rfl⟩ := Option.map_eq_some_iff.1 hw
        rfl
      | int64 n =>
        change Answers _ (orOverflow ((Word.int64? n.toInt.natAbs).map .int64))
        refine answers_orOverflow fun w hw => ?_
        obtain ⟨_, -, rfl⟩ := Option.map_eq_some_iff.1 hw
        rfl
      | float64 x => exact answers_ok rfl
      | null | boolean | utf8 | time => cases hnum

/-- The nearest integer is a 64-bit integer. -/
theorem fulfils_round : Fulfils ofRounding round := by
  intro types type arguments h hfit hpresent
  obtain ⟨rfl, argument, rfl, hargument⟩ := ofRounding_eq_ok h
  cases hfit with
  | @cons v _ _ _ hv hrest =>
    cases hrest
    have hpres := hpresent v List.mem_cons_self
    obtain rfl := hv.resolve_left hpres
    have hnum : v.dataType.isNumeric = true :=
      hargument.resolve_left fun he => hpres (Value.dataType_eq_null_iff.1 he)
    cases v with
    | int32 | int64 | float64 => exact answers_ok rfl
    | null | boolean | utf8 | time => cases hnum

/-- A part of a string is a string. -/
theorem fulfils_substring : Fulfils ofCut substring := by
  intro types type arguments h hfit hpresent
  obtain ⟨rfl, text, positions, rfl, htext, hlen, hpositions⟩ := ofCut_eq_ok h
  cases hfit with
  | @cons v _ rest _ hv hrest =>
    obtain ⟨s, rfl⟩ := exists_utf8_of_fits (hpresent v List.mem_cons_self) hv htext
    have hread : ∀ i, i < rest.length → ∃ n, integerArgument (.utf8 s :: rest) (i + 1) = .ok n := by
      intro i hi
      have hi' : i < positions.length := hrest.length_eq ▸ hi
      obtain ⟨n, hn⟩ := exists_toInt?_of_fits
        (hpresent _ (List.mem_cons_of_mem _ (List.getElem_mem hi)))
        (hrest.get hi hi') (hpositions _ (List.getElem_mem hi'))
      refine ⟨n, integerArgument_of_getElem? ?_ hn⟩
      rw [List.getElem?_cons_succ, List.getElem?_eq_getElem hi]
    have hs : stringArgument (.utf8 s :: rest) 0 = .ok s := stringArgument_of_getElem? rfl
    have hrestlen : rest.length = 1 ∨ rest.length = 2 := hrest.length_eq ▸ hlen
    obtain ⟨position, hposition⟩ := hread 0 (by omega)
    rw [substring, hs]
    simp only [bind, Except.bind, hposition]
    split
    · exact answers_ok rfl
    · rename_i hlong
      simp only [List.length_cons] at hlong
      obtain ⟨count, hcount⟩ := hread 1 (by omega)
      rw [hcount]
      exact answers_ok rfl

/-! ## The functions -/

/-- A built-in function answers all arguments that fit accepted types: with null, with a
value of the declared type, or with an integer overflow. -/
theorem answers_of_mem_all {f : ScalarFunction} (hf : f ∈ all) {types : List DataType}
    {type : DataType} {arguments : List Value} (htype : f.returnType types = .ok type)
    (hfit : List.Forall₂ Value.Fits arguments types) : Answers type (f.invoke arguments) := by
  simp only [all, List.mem_cons, List.not_mem_nil, or_false] at hf
  rcases hf with rfl | rfl | rfl | rfl | rfl | rfl | rfl | rfl
  · exact answers_strict (fulfils_onCharacters _) htype hfit
  · exact answers_strict (fulfils_onCharacters _) htype hfit
  · exact answers_strict (fulfils_onCharacters _) htype hfit
  · exact answers_strict fulfils_length htype hfit
  · exact answers_strict fulfils_concat htype hfit
  · exact answers_strict fulfils_magnitude htype hfit
  · exact answers_strict fulfils_round htype hfit
  · exact answers_strict fulfils_substring htype hfit

/-- The built-in functions keep their types. -/
theorem keepsTypes_of_mem_all {f : ScalarFunction} (hf : f ∈ all) : f.KeepsTypes := by
  intro types type arguments htype hfit v hv
  rcases answers_of_mem_all hf htype hfit with ⟨w, hw, hfits⟩ | herror
  · rw [hw] at hv
    exact Except.ok.inj hv ▸ hfits
  · rw [herror] at hv
    cases hv

/-- The built-in functions fail by integer overflows only. -/
theorem failsByOverflow_of_mem_all {f : ScalarFunction} (hf : f ∈ all) :
    f.FailsByOverflow := by
  intro types type arguments htype hfit e he
  rcases answers_of_mem_all hf htype hfit with ⟨w, hw, -⟩ | herror
  · rw [hw] at he
    cases he
  · rw [herror] at he
    exact (Except.error.inj he).symm

end Builtin

namespace Registry

/-- A resolved name is the name of a function that accepts the types. -/
theorem resolve_eq_ok {registry : Registry} {name : String} {types : List DataType}
    {function : ScalarFunction} {type : DataType}
    (h : registry.resolve name types = .ok (function, type)) :
    registry.find? name = some function ∧ function.returnType types = .ok type := by
  unfold resolve at h
  split at h
  · cases h
  · rename_i found hfound
    split at h
    · rename_i result hresult
      obtain ⟨rfl, rfl⟩ := Prod.mk.inj (Except.ok.inj h)
      exact ⟨hfound, hresult⟩
    · cases h

/-- What holds of a function and of all functions of a registry holds of those that are found
after it is registered. -/
theorem forall_find?_register {P : ScalarFunction → Prop} {registry : Registry}
    (h : ∀ name f, registry.find? name = some f → P f) {function : ScalarFunction}
    (hf : P function) : ∀ name f, (registry.register function).find? name = some f → P f := by
  intro name found hfound
  by_cases hname : Text.asciiUpper name = Text.asciiUpper function.name
  · rw [find?_of_asciiUpper_eq hname, find?_register_self] at hfound
    exact Option.some.inj hfound ▸ hf
  · rw [find?_register_of_ne hname] at hfound
    exact h name found hfound

/-- What holds of functions and of all functions of a registry holds of those that are found
after they are registered. -/
theorem forall_find?_registerAll {P : ScalarFunction → Prop} {registry : Registry}
    (h : ∀ name f, registry.find? name = some f → P f) {functions : List ScalarFunction}
    (hf : ∀ f ∈ functions, P f) :
    ∀ name f, (functions.foldl register registry).find? name = some f → P f := by
  induction functions generalizing registry with
  | nil => exact h
  | cons f rest ih =>
    exact ih (forall_find?_register h (hf f List.mem_cons_self))
      fun g hg => hf g (List.mem_cons_of_mem f hg)

/-- The functions of the registry of the built-in functions are built in. -/
theorem mem_all_of_find?_builtins {name : String} {f : ScalarFunction}
    (h : builtins.find? name = some f) : f ∈ Builtin.all :=
  forall_find?_registerAll (fun _ _ hempty => by cases hempty) (fun _ hf => hf) name f h

/-- Registering functions that keep their types, one after the other. -/
theorem keepsTypes_registerAll {registry : Registry} (h : registry.KeepsTypes)
    {functions : List ScalarFunction} (hf : ∀ f ∈ functions, f.KeepsTypes) :
    (functions.foldl register registry).KeepsTypes :=
  forall_find?_registerAll h hf

/-- The registry of the built-in functions keeps types. -/
theorem keepsTypes_builtins : builtins.KeepsTypes :=
  fun _ _ hf => Builtin.keepsTypes_of_mem_all (mem_all_of_find?_builtins hf)

end Registry

end StreamPlan

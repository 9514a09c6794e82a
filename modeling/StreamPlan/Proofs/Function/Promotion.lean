import StreamPlan.Proofs.Expr.TypedForm
import StreamPlan.Proofs.Function.ReturnType
import StreamPlan.Proofs.Value.Promotion

/-!
# Functions of promoted arguments

A function goes along with a promotion when it accepts the promoted types of its arguments with
a promoted return type, and makes of the promoted arguments the promoted value.  The built-in
functions do: strings are not promoted, the functions of a number compute with its value, and a
cut reads its positions as integers of any width.

Main results:

- `Value.promoteAll`: values held in the types of a list.
- `ScalarFunction.Promotes`: functions that go along with a promotion.
- `Builtin.promotes_of_mem_all`, `Registry.promotes_builtins`: the built-in functions do.
-/

namespace StreamPlan

/-! ## Lists of values -/

namespace Value

/-- The values as they are held in the types of a list. -/
def promoteAll (types : List DataType) (values : List Value) : List Value :=
  List.zipWith promote types values

/-- Values that fit the types are held as they are. -/
theorem promoteAll_of_fits {values : List Value} {types : List DataType}
    (h : List.Forall₂ Fits values types) : promoteAll types values = values := by
  induction h with
  | nil => rfl
  | cons hv _ ih => exact congrArg₂ List.cons (promote_of_fits hv) ih

variable {types : List DataType} {values : List Value}

/-- Each value is held in a type. -/
theorem exists_argument_promoteAll (h : values.length = types.length) (i : Nat) :
    ∃ type, Builtin.argument (promoteAll types values) i =
      (Builtin.argument values i).promote type := by
  unfold promoteAll Builtin.argument
  rw [List.getD_eq_getElem?_getD, List.getD_eq_getElem?_getD, List.getElem?_zipWith]
  by_cases hi : i < values.length
  · have htype : i < types.length := h ▸ hi
    rw [List.getElem?_eq_getElem hi, List.getElem?_eq_getElem htype]
    exact ⟨types[i], rfl⟩
  · rw [List.getElem?_eq_none (Nat.le_of_not_lt hi),
      List.getElem?_eq_none (h ▸ Nat.le_of_not_lt hi)]
    exact ⟨.null, rfl⟩

/-- There is a null among the promoted values if there was one. -/
theorem any_isNull_promoteAll (h : values.length = types.length) :
    (promoteAll types values).any isNull = values.any isNull := by
  induction values generalizing types with
  | nil => rw [promoteAll, List.zipWith_nil_right]
  | cons v rest ih =>
    cases types with
    | nil => cases h
    | cons type types =>
      change ((v.promote type).isNull || (promoteAll types rest).any isNull) = _
      rw [isNull_promote, ih (Nat.succ.inj h), List.any_cons]

/-- Promoted values are as many. -/
theorem length_promoteAll (h : values.length = types.length) :
    (promoteAll types values).length = values.length := by
  rw [promoteAll, List.length_zipWith, h, Nat.min_self]

end Value

/-! ## Functions -/

/-- The function goes along with a promotion of the types of its arguments. -/
structure ScalarFunction.Promotes (function : ScalarFunction) : Prop where
  /-- It accepts the promoted types, with a promoted return type. -/
  returnType : ∀ {types wides : List DataType}, List.Forall₂ DataType.PromotesTo types wides →
    Follows DataType.PromotesTo (function.returnType types) (function.returnType wides)
  /-- Where it has a value on arguments that fit, it has the promoted value on the promoted
  arguments. -/
  invoke : ∀ {types wides : List DataType} {type wide : DataType} {arguments : List Value},
    List.Forall₂ DataType.PromotesTo types wides → function.returnType types = .ok type →
    function.returnType wides = .ok wide → List.Forall₂ Value.Fits arguments types →
    Follows (fun v w => w = v.promote wide) (function.invoke arguments)
      (function.invoke (Value.promoteAll wides arguments))

/-- Every function that a registry finds goes along with a promotion. -/
def Registry.Promotes (registry : Registry) : Prop :=
  ∀ name function, registry.find? name = some function → function.Promotes

namespace Builtin

variable {f : ScalarFunction}

/-- On arguments of types that stay, a function that keeps its types has the same value. -/
theorem follows_invoke_of_fits (hkeeps : f.KeepsTypes) {types : List DataType} {type : DataType}
    {arguments : List Value} (htype : f.returnType types = .ok type)
    (hfit : List.Forall₂ Value.Fits arguments types) :
    Follows (fun v w => w = v.promote type) (f.invoke arguments)
      (f.invoke (Value.promoteAll types arguments)) := by
  rw [Value.promoteAll_of_fits hfit]
  exact Follows.refl fun v hv =>
    (Value.promote_of_fits (hkeeps types type arguments htype hfit v hv)).symm

/-- Types without 32-bit integers stay as they are. -/
theorem eq_of_promotes {types wides : List DataType}
    (h : List.Forall₂ DataType.PromotesTo types wides) (hint32 : .int32 ∉ types) :
    wides = types := by
  induction h with
  | nil => rfl
  | cons hpromoted _ ih =>
    rw [List.mem_cons, not_or] at hint32
    rw [hpromoted.eq_of_ne (Ne.symm hint32.1), ih hint32.2]

/-- A function that accepts no 32-bit integers goes along with a promotion. -/
theorem promotes_of_not_int32 (hkeeps : f.KeepsTypes)
    (haccepts : ∀ types type, f.returnType types = .ok type → .int32 ∉ types) : f.Promotes where
  returnType := by
    intro types wides h type htype
    obtain rfl := eq_of_promotes h (haccepts types type htype)
    exact ⟨type, htype, .refl type⟩
  invoke := by
    intro types wides type wide arguments h htype hwide hfit
    obtain rfl := eq_of_promotes h (haccepts types type htype)
    obtain rfl := Except.ok.inj (htype.symm.trans hwide)
    exact follows_invoke_of_fits hkeeps htype hfit

/-- Where no argument is null, a strict function has the value of its body. -/
theorem strict_of_present {body : List Value → Except Error Value} {arguments : List Value}
    (h : arguments.any Value.isNull = false) : strict body arguments = body arguments := by
  rw [strict, h]
  rfl

/-- A function of one argument goes along with a promotion if it does so for a 32-bit integer. -/
theorem promotes_of_int32 {name : String} {signature : List DataType → Except Error DataType}
    {body : List Value → Except Error Value} (hkeeps : (function name signature body).KeepsTypes)
    (haccepts : ∀ types type, signature types = .ok type → ∃ argument, types = [argument])
    (htypes : Follows DataType.PromotesTo (signature [.int32]) (signature [.int64]))
    (hvalues : ∀ wide, signature [.int64] = .ok wide → ∀ n : Int32,
      Follows (fun v w => w = v.promote wide) (body [.int32 n]) (body [.int64 n.toInt64])) :
    (function name signature body).Promotes where
  returnType := by
    intro types wides h type htype
    obtain ⟨argument, rfl⟩ := haccepts types type htype
    cases h with
    | cons hpromoted hrest =>
      cases hrest
      rcases hpromoted with rfl | ⟨rfl, rfl⟩
      · exact ⟨type, htype, .refl type⟩
      · exact htypes type htype
  invoke := by
    intro types wides type wide arguments h htype hwide hfit
    obtain ⟨argument, rfl⟩ := haccepts types type htype
    cases h with
    | cons hpromoted hrest =>
      cases hrest
      rcases hpromoted with rfl | ⟨rfl, rfl⟩
      · obtain rfl := Except.ok.inj (htype.symm.trans hwide)
        exact follows_invoke_of_fits hkeeps htype hfit
      · cases hfit with
        | cons hv hrest =>
          cases hrest
          rcases Value.eq_null_or_int32_of_fits hv with rfl | ⟨n, rfl⟩
          · exact follows_ok rfl
          · change Follows _ (strict body [.int32 n]) (strict body [.int64 n.toInt64])
            rw [strict_of_present rfl, strict_of_present rfl]
            exact hvalues wide hwide n

/-! ## Functions of a number -/

/-- The magnitude of a 32-bit integer that fits is that of the 64-bit one. -/
theorem promotes_magnitude : (function "ABS" ofMagnitude magnitude).Promotes := by
  refine promotes_of_int32 (keepsTypes_of_mem_all (by simp [all])) ?_ ?_ ?_
  · intro types type htype
    rcases ofMagnitude_eq_ok htype with rfl | ⟨rfl, -⟩
    · exact ⟨_, rfl⟩
    · exact ⟨_, rfl⟩
  · exact follows_ok (Or.inr ⟨rfl, rfl⟩)
  · rintro wide hwide n
    obtain rfl := Except.ok.inj hwide
    have hnarrow : magnitude [.int32 n] =
        orOverflow (Value.ofInteger? .int32 n.toInt.natAbs) := by
      rw [magnitude]
      rfl
    have hpromoted : magnitude [.int64 n.toInt64] =
        orOverflow (Value.ofInteger? .int64 n.toInt.natAbs) := by
      rw [magnitude, ← Int32.toInt_toInt64]
      rfl
    rw [hnarrow, hpromoted]
    cases hmagnitude : Value.ofInteger? .int32 n.toInt.natAbs with
    | none => exact follows_error _ _
    | some v =>
      rw [Value.ofInteger?_promote (Or.inr ⟨rfl, rfl⟩) hmagnitude]
      exact follows_ok rfl

/-- A 32-bit integer is rounded to the 64-bit one. -/
theorem promotes_round : (function "ROUND" ofRounding round).Promotes := by
  refine promotes_of_int32 (keepsTypes_of_mem_all (by simp [all])) ?_ ?_ ?_
  · intro types type htype
    obtain ⟨-, argument, rfl, -⟩ := ofRounding_eq_ok htype
    exact ⟨argument, rfl⟩
  · exact follows_ok (.refl _)
  · rintro wide hwide n
    obtain rfl := Except.ok.inj hwide
    have hround : round [.int32 n] = .ok (.int64 n.toInt64) :=
      congrArg (fun m => Except.ok (Value.int64 m)) (Int64.ofInt_int32ToInt n)
    rw [hround]
    exact follows_ok rfl

/-! ## Cutting a string -/

/-- A type stands for a string if the promoted type does. -/
theorem isString_promotes {type wide : DataType} (h : type.PromotesTo wide) :
    isString wide = isString type := by
  rcases h with rfl | ⟨rfl, rfl⟩ <;> rfl

/-- A type stands for an integer if the promoted type does. -/
theorem isInteger_promotes {type wide : DataType} (h : type.PromotesTo wide) :
    isInteger wide = isInteger type := by
  rcases h with rfl | ⟨rfl, rfl⟩ <;> rfl

/-- Cutting accepts promoted positions. -/
theorem ofCut_promotes {types wides : List DataType}
    (h : List.Forall₂ DataType.PromotesTo types wides) :
    Follows DataType.PromotesTo (ofCut types) (ofCut wides) := by
  intro type htype
  obtain ⟨rfl, text, positions, rfl, htext, hlength, hpositions⟩ := ofCut_eq_ok htype
  cases h with
  | @cons _ text' _ positions' hpromoted hrest =>
    refine ⟨.utf8, ?_, .refl _⟩
    have hall : positions'.all isInteger = true := by
      rw [List.all_eq_true]
      intro position hmem
      obtain ⟨source, hsource, hposition⟩ := exists_mem_of_forall₂ hrest hmem
      rw [isInteger_promotes hposition, hpositions source hsource]
    have harity : (Arity.between 2 3).accepts (text' :: positions').length = true := by
      rw [hrest.length_eq] at hlength
      simp only [Arity.accepts, List.length_cons, Bool.and_eq_true, decide_eq_true_eq]
      omega
    refine bind_eq_ok_iff.2 ⟨(), if_pos harity, if_pos ?_⟩
    rw [List.headD_cons, List.tail_cons, isString_promotes hpromoted, htext, hall]
    rfl

section Arguments

variable {types : List DataType} {values : List Value} (h : values.length = types.length)
include h

/-- The string in a place stays. -/
theorem follows_stringArgument (i : Nat) :
    Follows Eq (stringArgument values i)
      (stringArgument (Value.promoteAll types values) i) := by
  obtain ⟨type, htype⟩ := Value.exists_argument_promoteAll h i
  unfold stringArgument
  rw [htype, Value.toText?_promote]
  cases (argument values i).toText? with
  | none => exact follows_error _ _
  | some s => exact follows_ok rfl

/-- The integer in a place stays, however it is held. -/
theorem follows_integerArgument (i : Nat) :
    Follows Eq (integerArgument values i)
      (integerArgument (Value.promoteAll types values) i) := by
  obtain ⟨type, htype⟩ := Value.exists_argument_promoteAll h i
  unfold integerArgument
  rw [htype, Value.toInt?_promote]
  cases (argument values i).toInt? with
  | none => exact follows_error _ _
  | some n => exact follows_ok rfl

/-- A cut at promoted positions is the same. -/
theorem follows_substring :
    Follows Eq (substring values) (substring (Value.promoteAll types values)) := by
  unfold substring
  refine (follows_stringArgument h 0).bind ?_
  rintro s _ rfl
  refine (follows_integerArgument h 1).bind ?_
  rintro position _ rfl
  rw [Value.length_promoteAll h]
  split
  · exact follows_ok rfl
  · refine (follows_integerArgument h 2).bind ?_
    rintro count _ rfl
    exact follows_ok rfl

end Arguments

/-- Cutting a string goes along with a promotion. -/
theorem promotes_substring : (function "SUBSTRING" ofCut substring).Promotes where
  returnType := ofCut_promotes
  invoke := by
    intro types wides type wide arguments h _ hwide hfit
    have hlength : arguments.length = wides.length := hfit.length_eq.trans h.length_eq
    obtain ⟨rfl, -⟩ := ofCut_eq_ok hwide
    change Follows _ (strict substring arguments)
      (strict substring (Value.promoteAll wides arguments))
    unfold strict
    rw [Value.any_isNull_promoteAll hlength]
    split
    · exact follows_ok rfl
    · refine (follows_substring hlength).imp ?_
      rintro v _ rfl
      have hne : DataType.utf8 ≠ .int64 := nofun
      exact (Value.promote_of_ne hne v).symm

/-! ## The functions -/

/-- A function of one string accepts no 32-bit integers. -/
theorem int32_notMem_of_ofString {result type : DataType} {types : List DataType}
    (h : ofString result types = .ok type) : .int32 ∉ types := by
  obtain ⟨-, argument, rfl, hargument⟩ := ofString_eq_ok h
  intro hmem
  obtain rfl := List.mem_singleton.1 hmem
  cases hargument

/-- A function of several strings accepts no 32-bit integers. -/
theorem int32_notMem_of_ofStrings {type : DataType} {types : List DataType}
    (h : ofStrings types = .ok type) : .int32 ∉ types := fun hmem =>
  absurd ((ofStrings_eq_ok h).2 _ hmem) nofun

/-- The built-in functions go along with a promotion. -/
theorem promotes_of_mem_all (hf : f ∈ all) : f.Promotes := by
  have hkeeps := keepsTypes_of_mem_all hf
  simp only [all, List.mem_cons, List.not_mem_nil, or_false] at hf
  rcases hf with rfl | rfl | rfl | rfl | rfl | rfl | rfl | rfl
  · exact promotes_of_not_int32 hkeeps fun _ _ => int32_notMem_of_ofString
  · exact promotes_of_not_int32 hkeeps fun _ _ => int32_notMem_of_ofString
  · exact promotes_of_not_int32 hkeeps fun _ _ => int32_notMem_of_ofString
  · exact promotes_of_not_int32 hkeeps fun _ _ => int32_notMem_of_ofString
  · exact promotes_of_not_int32 hkeeps fun _ _ => int32_notMem_of_ofStrings
  · exact promotes_magnitude
  · exact promotes_round
  · exact promotes_substring

end Builtin

namespace Registry

/-- The registry of the built-in functions goes along with a promotion. -/
theorem promotes_builtins : builtins.Promotes :=
  fun _ _ hf => Builtin.promotes_of_mem_all (mem_all_of_find?_builtins hf)

/-- A registry of functions that go along with a promotion resolves a name to the same function
for promoted types. -/
theorem resolve_promotes {registry : Registry} (hpromotes : registry.Promotes) (name : String)
    {types wides : List DataType} (h : List.Forall₂ DataType.PromotesTo types wides) :
    Follows (fun found other => found.1 = other.1 ∧ found.2.PromotesTo other.2)
      (registry.resolve name types) (registry.resolve name wides) := by
  rintro ⟨function, type⟩ hresolve
  obtain ⟨hfind, htype⟩ := resolve_eq_ok hresolve
  obtain ⟨wide, hwide, hpromoted⟩ := (hpromotes name function hfind).returnType h type htype
  refine ⟨(function, wide), ?_, rfl, hpromoted⟩
  unfold resolve
  rw [hfind]
  dsimp only
  rw [hwide]

end Registry

end StreamPlan

import StreamPlan.Proofs.Function.ReturnType

/-!
# Cutting strings

A string is cut at any position and for any length that an integer argument can hold.  What comes
out are the characters behind the ones that the position skips, as many of them as the length says
and the string has; no position and no length fails.  A string that is cut behind its first
characters is therefore put together again by its two parts.

Main results:

- `Registry.apply`: the value of a function that is found by its name.
- `Registry.apply_substring`, `Registry.apply_substring_toEnd`: what is cut out of a string.
- `Registry.apply_concat`, `Registry.apply_length`: two strings together, and the length of one.
- `Registry.cutsCleanly`: cutting a string.
-/

namespace StreamPlan

namespace Registry

/-- The value of the function with a name on arguments, when it accepts their types. -/
def apply (registry : Registry) (name : String) (arguments : List Value) : Except Error Value := do
  let (function, _) ← registry.resolve name (arguments.map Value.dataType)
  function.invoke arguments

open Builtin

/-- The built-in functions are found by their names. -/
theorem find?_builtins_of_mem {f : ScalarFunction} (hf : f ∈ all) :
    builtins.find? f.name = some f := by
  simp only [all, List.mem_cons, List.not_mem_nil, or_false] at hf
  rcases hf with rfl | rfl | rfl | rfl | rfl | rfl | rfl | rfl <;> rfl

/-- A built-in function without a null among its arguments has the value of its body. -/
theorem apply_builtin (returnType : List DataType → Except Error DataType) {name : String}
    {body : List Value → Except Error Value} {arguments : List Value} {type : DataType}
    (hmem : function name returnType body ∈ all)
    (htype : returnType (arguments.map Value.dataType) = .ok type)
    (hpresent : ∀ v ∈ arguments, v ≠ .null) : builtins.apply name arguments = body arguments := by
  have hname : (function name returnType body).name = name := rfl
  have hfind := find?_builtins_of_mem hmem
  rw [hname] at hfind
  have hresolve : builtins.resolve name (arguments.map Value.dataType) =
      .ok (function name returnType body, type) := by
    simp [resolve, hfind, function, htype]
  have hstrict : arguments.any Value.isNull = false := by
    simpa [List.any_eq_false] using hpresent
  rw [apply, hresolve]
  simp [bind, Except.bind, function, strict, hstrict]

/-- An integer argument has an integer type. -/
theorem isInteger_of_toInt? {v : Value} {n : Int} (h : v.toInt? = some n) :
    isInteger v.dataType = true ∧ v ≠ .null := by
  cases v <;> simp_all [Value.toInt?, Value.dataType, isInteger]

/-- An integer argument has at most sixty-four bits. -/
theorem lt_of_toInt? {v : Value} {n : Int} (h : v.toInt? = some n) : n < 0x8000000000000000 := by
  cases v with
  | int32 w =>
    have hw := w.toInt_lt
    simp [Value.toInt?] at h
    omega
  | int64 w =>
    have hw := w.toInt_lt
    simp [Value.toInt?] at h
    omega
  | null | boolean | float64 | utf8 | time => simp [Value.toInt?] at h

/-- Cutting accepts a string and an integer. -/
theorem ofCut_toEnd (s : String) {position : Value}
    (hposition : isInteger position.dataType = true) :
    ofCut ([.utf8 s, position].map Value.dataType) = .ok .utf8 := by
  have hs : isString (Value.utf8 s).dataType = true := rfl
  simp [ofCut, requireArity, Arity.accepts, bind, Except.bind, hs, hposition]

/-- Cutting accepts a string and two integers. -/
theorem ofCut_withLength (s : String) {position count : Value}
    (hposition : isInteger position.dataType = true) (hcount : isInteger count.dataType = true) :
    ofCut ([.utf8 s, position, count].map Value.dataType) = .ok .utf8 := by
  have hs : isString (Value.utf8 s).dataType = true := rfl
  simp [ofCut, requireArity, Arity.accepts, bind, Except.bind, hs, hposition, hcount]

/-- A string is cut from a position on for a length. -/
theorem apply_substring (s : String) {position count : Value} {p n : Int}
    (hposition : position.toInt? = some p) (hcount : count.toInt? = some n) :
    builtins.apply "SUBSTRING" [.utf8 s, position, count] =
      .ok (.utf8 (String.ofList
        ((s.toList.drop (max p 1 - 1).toNat).take (max n 0).toNat))) := by
  have hp := isInteger_of_toInt? hposition
  have hn := isInteger_of_toInt? hcount
  have happly : builtins.apply "SUBSTRING" [.utf8 s, position, count] =
      substring [.utf8 s, position, count] :=
    apply_builtin ofCut (by simp [all]) (ofCut_withLength s hp.1 hn.1) (by simp [hp, hn])
  rw [happly, ← Text.slice_partSpan_some s.toList (lt_of_toInt? hposition) (lt_of_toInt? hcount)]
  simp [substring, stringArgument, integerArgument, argument, bind, Except.bind, Value.toText?,
    hposition, hcount, Text.part]

/-- Without a length a string is cut from a position on to its end. -/
theorem apply_substring_toEnd (s : String) {position : Value} {p : Int}
    (hposition : position.toInt? = some p) :
    builtins.apply "SUBSTRING" [.utf8 s, position] =
      .ok (.utf8 (String.ofList (s.toList.drop (max p 1 - 1).toNat))) := by
  have hp := isInteger_of_toInt? hposition
  have happly : builtins.apply "SUBSTRING" [.utf8 s, position] = substring [.utf8 s, position] :=
    apply_builtin ofCut (by simp [all]) (ofCut_toEnd s hp.1) (by simp [hp])
  rw [happly, ← Text.slice_partSpan_none s.toList (lt_of_toInt? hposition)]
  simp [substring, stringArgument, integerArgument, argument, bind, Except.bind, Value.toText?,
    hposition, Text.part]

/-- Two strings are put together. -/
theorem apply_concat (s t : String) :
    builtins.apply "CONCAT" [.utf8 s, .utf8 t] = .ok (.utf8 (s ++ t)) := by
  have happly : builtins.apply "CONCAT" [.utf8 s, .utf8 t] = concat [.utf8 s, .utf8 t] :=
    apply_builtin ofStrings (by simp [all]) rfl (by simp)
  rw [happly]
  simp [concat, stringArgument, argument, Value.toText?, List.range_succ, bind, Except.bind, pure,
    Except.pure, Except.map]

/-- A string of less than two billion characters has its number of characters as its length. -/
theorem apply_length (s : String) (h : s.toList.length < 0x80000000) :
    ∃ n : Int32, builtins.apply "LEN" [.utf8 s] = .ok (.int32 n) ∧ n.toInt = s.toList.length := by
  have happly : builtins.apply "LEN" [.utf8 s] = length [.utf8 s] :=
    apply_builtin (ofString .int32) (by simp [all]) rfl (by simp)
  refine ⟨Int32.ofNat (min s.toList.length 0x7FFFFFFF), ?_, ?_⟩
  · rw [happly]
    rfl
  · rw [Nat.min_eq_left (by omega)]
    exact Int32.toInt_ofNat_of_lt h

/-! ## The parts of a string -/

/-- How a string is cut. -/
structure CutsCleanly (s : String) : Prop where
  /-- With a length: the characters behind those before the position, as many as the length says
  and the string has.  Positions below one count as one, lengths below zero as zero. -/
  withLength : ∀ (position count : Value) (p n : Int), position.toInt? = some p →
    count.toInt? = some n →
    builtins.apply "SUBSTRING" [.utf8 s, position, count] =
      .ok (.utf8 (String.ofList ((s.toList.drop (max p 1 - 1).toNat).take (max n 0).toNat)))
  /-- Without a length: all characters behind those before the position. -/
  toEnd : ∀ (position : Value) (p : Int), position.toInt? = some p →
    builtins.apply "SUBSTRING" [.utf8 s, position] =
      .ok (.utf8 (String.ofList (s.toList.drop (max p 1 - 1).toNat)))
  /-- Cut behind any number of characters, the string is put together again by its two parts, and
  the first part is as long as the number says and the string is. -/
  parts : ∀ k : Int64, 0 ≤ k.toInt → k.toInt < 0x7FFFFFFFFFFFFFFF →
    ∃ first second : Value, builtins.apply "SUBSTRING" [.utf8 s, .int64 1, .int64 k] = .ok first ∧
      builtins.apply "SUBSTRING" [.utf8 s, .int64 (k + 1)] = .ok second ∧
      builtins.apply "CONCAT" [first, second] = .ok (.utf8 s) ∧
      (s.toList.length < 0x80000000 → ∃ part whole : Int32,
        builtins.apply "LEN" [first] = .ok (.int32 part) ∧
        builtins.apply "LEN" [.utf8 s] = .ok (.int32 whole) ∧
        part.toInt = min k.toInt whole.toInt)

/-- The word after one that is not the largest is one more. -/
theorem toInt_succ {k : Int64} (hzero : 0 ≤ k.toInt) (hk : k.toInt < 0x7FFFFFFFFFFFFFFF) :
    (k + 1).toInt = k.toInt + 1 := by
  have hone : (1 : Int64).toInt = 1 := rfl
  rw [Int64.toInt_add, hone, Int.bmod_eq_of_le] <;> omega

/-- Every string is cut cleanly. -/
theorem cutsCleanly (s : String) : CutsCleanly s where
  withLength _ _ _ _ := apply_substring s
  toEnd _ _ := apply_substring_toEnd s
  parts k hzero hk := by
    have hone : (Value.int64 1).toInt? = some 1 := rfl
    have hcount : (Value.int64 k).toInt? = some k.toInt := rfl
    have hnext : (Value.int64 (k + 1)).toInt? = some (k.toInt + 1) :=
      congrArg some (toInt_succ hzero hk)
    have hfirst := apply_substring s hone hcount
    have hsecond := apply_substring_toEnd s hnext
    have hstart : (max (1 : Int) 1 - 1).toNat = 0 := rfl
    have hskip : max (k.toInt + 1) 1 - 1 = k.toInt := by omega
    rw [hstart, List.drop_zero, Int.max_eq_left hzero] at hfirst
    rw [hskip] at hsecond
    refine ⟨_, _, hfirst, hsecond, ?_, fun hlength => ?_⟩
    · rw [apply_concat, ← String.ofList_append]
      simp
    · obtain ⟨whole, hwhole, hwholeLength⟩ := apply_length s hlength
      obtain ⟨part, hpart, hpartLength⟩ :=
        apply_length (String.ofList (s.toList.take k.toInt.toNat)) (by simp; omega)
      refine ⟨part, whole, hpart, hwhole, ?_⟩
      rw [String.toList_ofList, List.length_take] at hpartLength
      omega

/-- Characters are counted, not bytes, and a position below one is the first. -/
example : builtins.apply "SUBSTRING" [.utf8 "\u00e9t\u00e9", .int32 (-3), .int64 2] =
    .ok (.utf8 "\u00e9t") := by cbv

end Registry

end StreamPlan

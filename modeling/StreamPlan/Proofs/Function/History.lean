import Mathlib.Data.String.Basic
import StreamPlan.Function.Builtin
import StreamPlan.Proofs.Text.Case

/-!
# Histories of a registry

Functions are registered and removed one after the other.  What a registry knows afterwards can
be read off these calls: a name stands for the last function that was registered under it, in
whatever case, unless the name was removed since.

Main results:

- `Registry.Call`, `Registry.run`: the calls that change a registry, and a run of them.
- `Registry.Provides`: the function that a history of calls leaves under a name.
- `Registry.Origin`: the registries that a history begins with.
- `Registry.find?_run_iff`, `Registry.find?_origin_iff`: what is found after a run.
- `Registry.Kept`, `Registry.Kept.run`: entries in the order of their keys, through a run.
- `Registry.Kept.mem_names_iff`: the names of a registry.
-/

namespace StreamPlan

namespace Registry

/-- A call that changes a registry. -/
inductive Call where
  | register (function : ScalarFunction)
  | deregister (name : String)

/-- The name that a call is about. -/
def Call.name : Call → String
  | register function => function.name
  | deregister name => name

/-- The registry after a call. -/
def call (registry : Registry) : Call → Registry
  | .register function => registry.register function
  | .deregister name => registry.deregister name

/-- The registry after calls, one after the other. -/
def run (registry : Registry) (calls : List Call) : Registry := calls.foldl call registry

/-- A history of calls leaves a function under a name: it was registered under that name up to
case, and no later call was about the name. -/
def Provides (history : List Call) (name : String) (function : ScalarFunction) : Prop :=
  ∃ before after, history = before ++ .register function :: after ∧
    Text.SameUpToCase function.name name ∧
    ∀ later ∈ after, ¬ Text.SameUpToCase later.name name

/-- The registries that calls begin with. -/
inductive Origin where
  | empty
  | builtins

/-- The registry without functions, and that of the built-in ones. -/
def Origin.registry : Origin → Registry
  | empty => Registry.empty
  | builtins => Registry.builtins

/-- The calls that a registry was made with: the built-in functions are registered one by one. -/
def Origin.history : Origin → List Call
  | empty => []
  | builtins => Builtin.all.map .register

/-! ## Looking up after a run -/

/-- The last call of a history leaves its own function under its name, and any other name as it
was. -/
theorem provides_concat_iff {history : List Call} {last : Call} {name : String}
    {function : ScalarFunction} :
    Provides (history ++ [last]) name function ↔
      (last = .register function ∧ Text.SameUpToCase last.name name) ∨
        (¬ Text.SameUpToCase last.name name ∧ Provides history name function) := by
  constructor
  · rintro ⟨before, after, hsplit, hname, hlater⟩
    rcases List.eq_nil_or_concat after with rfl | ⟨front, call, rfl⟩
    · obtain ⟨-, hlast⟩ := List.append_inj' hsplit rfl
      obtain rfl := List.head_eq_of_cons_eq hlast
      exact .inl ⟨rfl, hname⟩
    · rw [List.concat_eq_append, ← List.cons_append, ← List.append_assoc] at hsplit
      obtain ⟨rfl, hlast⟩ := List.append_inj' hsplit rfl
      obtain rfl := List.head_eq_of_cons_eq hlast
      refine .inr ⟨hlater last (by simp), before, front, rfl, hname, fun later hmem => ?_⟩
      exact hlater later (by simp [hmem])
  · rintro (⟨rfl, hname⟩ | ⟨hother, before, after, rfl, hname, hlater⟩)
    · exact ⟨history, [], rfl, hname, nofun⟩
    · refine ⟨before, after ++ [last], by simp, hname, fun later hmem => ?_⟩
      rcases List.mem_append.1 hmem with hafter | hlast
      · exact hlater later hafter
      · rwa [List.mem_singleton.1 hlast]

/-- One call changes what is found under its own name only. -/
theorem find?_call_iff {registry : Registry} {last : Call} {name : String}
    {function : ScalarFunction} :
    (registry.call last).find? name = some function ↔
      (last = .register function ∧ Text.SameUpToCase last.name name) ∨
        (¬ Text.SameUpToCase last.name name ∧ registry.find? name = some function) := by
  cases last with
  | register f =>
    simp only [call, Call.name, find?, register, findIn?_insertEntry, Text.asciiUpper_eq_iff]
    by_cases hname : Text.SameUpToCase f.name name <;> simp [hname]
  | deregister removed =>
    simp only [call, Call.name, find?, deregister, findIn?_filter, Text.asciiUpper_eq_iff]
    by_cases hname : Text.SameUpToCase removed name <;> simp [hname]

/-- If a registry finds what a history leaves, it does so after further calls. -/
theorem find?_run_iff {registry : Registry} {history : List Call}
    (h : ∀ name function, registry.find? name = some function ↔ Provides history name function)
    (calls : List Call) (name : String) (function : ScalarFunction) :
    (registry.run calls).find? name = some function ↔
      Provides (history ++ calls) name function := by
  induction calls generalizing registry history with
  | nil => simpa [run] using h name function
  | cons first rest ih =>
    have hstep : ∀ name function, (registry.call first).find? name = some function ↔
        Provides (history ++ [first]) name function := by
      intro name function
      rw [find?_call_iff, provides_concat_iff, h]
    simpa [run] using ih hstep

/-- Nothing is found before any call. -/
theorem find?_empty_iff (name : String) (function : ScalarFunction) :
    empty.find? name = some function ↔ Provides [] name function := by
  constructor
  · intro h
    cases h
  · rintro ⟨before, after, hsplit, -⟩
    simp at hsplit

/-- A registry that calls begin with is what its own history makes of the empty one. -/
theorem Origin.registry_eq_run (origin : Origin) : origin.registry = Registry.empty.run origin.history := by
  cases origin with
  | empty => rfl
  | builtins => exact List.foldl_map.symm

/-- After calls a name finds the function that the whole history leaves under it. -/
theorem find?_origin_iff (origin : Origin) (calls : List Call) (name : String)
    (function : ScalarFunction) :
    (origin.registry.run calls).find? name = some function ↔
      Provides (origin.history ++ calls) name function := by
  apply find?_run_iff
  intro name function
  rw [origin.registry_eq_run]
  exact find?_run_iff find?_empty_iff origin.history name function

/-! ## The names of a registry -/

/-- The entries of a registry are in the order of their keys, and every function is under its
own name. -/
structure Kept (registry : Registry) : Prop where
  ordered : registry.entries.Pairwise fun a b => a.1 < b.1
  keyed : ∀ entry ∈ registry.entries, entry.1 = Text.asciiUpper entry.2.name

/-- An entry after an insertion is the inserted one or was there before. -/
theorem mem_of_mem_insertEntry {key : String} {function : ScalarFunction}
    {entries : List (String × ScalarFunction)} {entry : String × ScalarFunction}
    (h : entry ∈ insertEntry key function entries) : entry = (key, function) ∨ entry ∈ entries := by
  induction entries with
  | nil => exact .inl (List.mem_singleton.1 h)
  | cons first rest ih =>
    rw [insertEntry] at h
    split at h
    · exact (List.mem_cons.1 h).imp_right (List.mem_cons_of_mem first)
    · split at h
      · exact List.mem_cons.1 h
      · rcases List.mem_cons.1 h with rfl | hrest
        · exact .inr List.mem_cons_self
        · exact (ih hrest).imp_right (List.mem_cons_of_mem first)

/-- An insertion keeps the entries in the order of their keys. -/
theorem ordered_insertEntry {key : String} {function : ScalarFunction}
    {entries : List (String × ScalarFunction)} (h : entries.Pairwise fun a b => a.1 < b.1) :
    (insertEntry key function entries).Pairwise fun a b => a.1 < b.1 := by
  induction entries with
  | nil => exact List.pairwise_singleton _ _
  | cons first rest ih =>
    obtain ⟨hfirst, hrest⟩ := List.pairwise_cons.1 h
    rw [insertEntry]
    split
    · rename_i hkey
      exact List.pairwise_cons.2 ⟨fun entry hmem => hkey ▸ hfirst entry hmem, hrest⟩
    · rename_i hkey
      split
      · rename_i hbefore
        refine List.pairwise_cons.2 ⟨fun entry hmem => ?_, h⟩
        rcases List.mem_cons.1 hmem with rfl | hlater
        · exact hbefore
        · exact lt_trans hbefore (hfirst entry hlater)
      · rename_i hbehind
        refine List.pairwise_cons.2 ⟨fun entry hmem => ?_, ih hrest⟩
        rcases mem_of_mem_insertEntry hmem with rfl | hlater
        · exact lt_of_le_of_ne (not_lt.1 hbehind) hkey
        · exact hfirst entry hlater

/-- The registry without functions is kept. -/
theorem kept_empty : empty.Kept := ⟨.nil, nofun⟩

/-- A call keeps a registry kept. -/
theorem Kept.call {registry : Registry} (h : registry.Kept) (next : Call) :
    (registry.call next).Kept := by
  cases next with
  | register function =>
    refine ⟨ordered_insertEntry h.ordered, fun entry hmem => ?_⟩
    rcases mem_of_mem_insertEntry hmem with rfl | hbefore
    · rfl
    · exact h.keyed entry hbefore
  | deregister name =>
    refine ⟨h.ordered.filter _, fun entry hmem => ?_⟩
    exact h.keyed entry (List.mem_of_mem_filter hmem)

/-- A run keeps a registry kept. -/
theorem Kept.run {registry : Registry} (h : registry.Kept) (calls : List Call) :
    (registry.run calls).Kept := by
  induction calls generalizing registry with
  | nil => exact h
  | cons first rest ih => exact ih (h.call first)

/-- Calls lead to kept registries. -/
theorem kept_origin (origin : Origin) (calls : List Call) : (origin.registry.run calls).Kept := by
  rw [origin.registry_eq_run]
  exact (kept_empty.run origin.history).run calls

/-- Where keys are in order, the entries are what is found. -/
theorem findIn?_eq_some_iff {entries : List (String × ScalarFunction)}
    (h : entries.Pairwise fun a b => a.1 < b.1) {key : String} {function : ScalarFunction} :
    findIn? key entries = some function ↔ (key, function) ∈ entries := by
  induction entries with
  | nil => simp [findIn?]
  | cons first rest ih =>
    obtain ⟨hfirst, hrest⟩ := List.pairwise_cons.1 h
    rw [findIn?, List.mem_cons]
    split
    · rename_i hkey
      constructor
      · intro hfound
        exact .inl (Prod.ext hkey (Option.some.inj hfound)).symm
      · rintro (rfl | hlater)
        · rfl
        · -- an entry further on has a larger key
          exact absurd (hfirst _ hlater) (by simp [hkey])
    · rename_i hkey
      rw [ih hrest]
      constructor
      · exact .inr
      · rintro (rfl | hlater)
        · exact absurd rfl hkey
        · exact hlater

/-- The names of a kept registry are in strictly increasing order. -/
theorem Kept.names_increasing {registry : Registry} (h : registry.Kept) :
    registry.names.Pairwise (· < ·) := List.pairwise_map.2 h.ordered

/-- The names of a kept registry are the capitals of the names of the functions it finds. -/
theorem Kept.mem_names_iff {registry : Registry} (h : registry.Kept) {key : String} :
    key ∈ registry.names ↔
      ∃ function, registry.find? function.name = some function ∧
        Text.asciiUpper function.name = key := by
  constructor
  · intro hmem
    obtain ⟨⟨key, function⟩, hentry, rfl⟩ := List.mem_map.1 hmem
    have hkey : key = Text.asciiUpper function.name := h.keyed _ hentry
    refine ⟨function, ?_, hkey.symm⟩
    rw [find?, ← hkey]
    exact (findIn?_eq_some_iff h.ordered).2 hentry
  · rintro ⟨function, hfound, rfl⟩
    exact List.mem_map.2 ⟨_, (findIn?_eq_some_iff h.ordered).1 hfound, rfl⟩

end Registry

end StreamPlan

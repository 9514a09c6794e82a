import Mathlib.Data.List.Nodup
import Mathlib.Tactic.MkIffOfInductiveProp
import StreamPlan.Config
import StreamPlan.Proofs.Outcome
import StreamPlan.Text.Number

/-!
# Properties laid over the default configuration

A map of properties is visited entry by entry, in whatever order its entries come.  The keys of a
map are distinct, so that every entry sets a field of its own, and what an order of entries leaves
behind depends on the entries alone: each field holds what its property says, and the default where
no property speaks of it.

Main results:

- `Text.readUnsigned?_eq_some_iff`: the texts that are read as numbers.
- `Config.Overlaid`: the configuration that properties describe over another one.
- `Config.setProperty_eq_ok_iff`: what laying one property over a configuration does.
- `Config.setProperties_eq_ok_iff`: what laying the entries of a map over it does.
- `Config.overlaysExactly`: reading a map of properties.
-/

namespace StreamPlan.Text

/-- The text writes the number: digits, with or without a plus sign in front of them. -/
def WritesUnsigned (cs : List Char) (n : Nat) : Prop :=
  ∃ digits, (cs = digits ∨ cs = '+' :: digits) ∧ digits ≠ [] ∧
    (∀ c ∈ digits, c.isDigit = true) ∧ Nat.ofDigitChars 10 digits 0 = n

/-- Digits are read as the number that they write. -/
theorem readNat?_eq_some_iff {cs : List Char} {n : Nat} :
    readNat? cs = some n ↔
      cs ≠ [] ∧ (∀ c ∈ cs, c.isDigit = true) ∧ Nat.ofDigitChars 10 cs 0 = n := by
  unfold readNat?
  split
  · rename_i h
    simp only [Bool.or_eq_true, List.isEmpty_iff, Bool.not_eq_true', List.all_eq_false] at h
    grind
  · rename_i h
    simp_all

/-- What is read as a number without a sign, or with a plus sign. -/
theorem readUnsigned?_eq_some_iff {cs : List Char} {n : Nat} :
    readUnsigned? cs = some n ↔ WritesUnsigned cs n := by
  have hplus : ('+' : Char).isDigit = false := rfl
  unfold readUnsigned?
  split
  · rename_i digits
    rw [readNat?_eq_some_iff]
    constructor
    · intro h
      exact ⟨digits, .inr rfl, h⟩
    · rintro ⟨digits', h | h, hne, hdigits, hn⟩
      · simpa [← h, hplus] using hdigits '+'
      · obtain rfl := (List.cons.inj h).2
        exact ⟨hne, hdigits, hn⟩
  · rename_i hsign
    rw [readNat?_eq_some_iff]
    constructor
    · intro h
      exact ⟨cs, .inl rfl, h⟩
    · rintro ⟨digits, h | h, hdigits⟩
      · exact h ▸ hdigits
      · exact absurd h (hsign digits)

end StreamPlan.Text

namespace StreamPlan.Config

/-! ## What properties say -/

/-- The keys of the planner's properties. -/
def propertyKeys : List String :=
  ["planner.key.column", "planner.window.start.column", "planner.window.end.column",
    "planner.sink.partitions", "planner.sink.replicas"]

/-- Whether an entry is one of the planner's. -/
def isOwn (entry : String × String) : Bool := propertyMark.toList.isPrefixOf entry.1.toList

/-- Every key with the planner's mark is one of the planner's keys. -/
def OnlyKnown (properties : List (String × String)) : Prop :=
  ∀ entry ∈ properties, isOwn entry = true → entry.1 ∈ propertyKeys

/-- A column takes its name from a value without the blanks around it. -/
def ReadsName (value name : String) : Prop := name = trimmed value

/-- A value, without the blanks around it, writes a number. -/
def ReadsNumber (value : String) (n : Nat) : Prop :=
  Text.WritesUnsigned (Text.trim value.toList) n

/-- A field holds what the value under its key reads as, and its default when nothing is under the
key. -/
structure Holds {α : Type} (properties : List (String × String)) (key : String)
    (reads : String → α → Prop) (default held : α) : Prop where
  given : ∀ value, (key, value) ∈ properties → reads value held
  absent : (∀ value, (key, value) ∉ properties) → held = default

/-- The configuration that properties describe over another one. -/
@[mk_iff] structure Overlaid (base : Config) (properties : List (String × String))
    (config : Config) : Prop where
  keyColumn : Holds properties "planner.key.column" ReadsName base.keyColumn config.keyColumn
  windowStartColumn : Holds properties "planner.window.start.column" ReadsName
    base.windowStartColumn config.windowStartColumn
  windowEndColumn : Holds properties "planner.window.end.column" ReadsName
    base.windowEndColumn config.windowEndColumn
  sinkPartitions : Holds properties "planner.sink.partitions"
    (fun value held => ReadsNumber value held.toNat) base.sinkPartitions config.sinkPartitions
  sinkReplicas : Holds properties "planner.sink.replicas"
    (fun value held => ReadsNumber value held.toNat) base.sinkReplicas config.sinkReplicas

/-- Every number among the properties can be read and lies in its range. -/
structure NumbersFit (properties : List (String × String)) : Prop where
  sinkPartitions : ∀ value, ("planner.sink.partitions", value) ∈ properties →
    ∃ n < 0x100000000, ReadsNumber value n
  sinkReplicas : ∀ value, ("planner.sink.replicas", value) ∈ properties →
    ∃ n < 0x10000, ReadsNumber value n

/-! ## Fields -/

section Fields

variable {α : Type} {properties : List (String × String)} {key : String}
  {reads : String → α → Prop} {default held : α}

/-- Without properties a field holds its default. -/
theorem holds_nil : Holds [] key reads default held ↔ held = default :=
  ⟨fun h => h.absent (by simp), fun h => ⟨by simp, fun _ => h⟩⟩

/-- One property sets the field of its key. -/
theorem holds_singleton {key' value : String} :
    Holds [(key', value)] key reads default held ↔
      if key' = key then reads value held else held = default := by
  by_cases h : key' = key
  · subst h
    rw [if_pos rfl]
    exact ⟨fun h => h.given value (by simp), fun h => ⟨by simpa using h, by simp⟩⟩
  · rw [if_neg h]
    exact ⟨fun hheld => hheld.absent (by simp [Ne.symm h]),
      fun hheld => ⟨by simp [Ne.symm h], fun _ => hheld⟩⟩

/-- Under distinct keys a first property sets the field before the others do. -/
theorem holds_cons {key' value : String} (hkey : key' ∉ properties.map Prod.fst) :
    Holds ((key', value) :: properties) key reads default held ↔
      ∃ mid, Holds [(key', value)] key reads default mid ∧ Holds properties key reads mid held := by
  simp only [holds_singleton]
  by_cases h : key' = key
  · subst h
    have hrest : ∀ value, (key', value) ∉ properties := fun value hmem =>
      hkey (List.mem_map_of_mem hmem)
    simp only [if_true]
    constructor
    · intro hheld
      exact ⟨held, hheld.given value (by simp), by simp [hrest], fun _ => rfl⟩
    · rintro ⟨mid, hreads, hheld⟩
      obtain rfl := hheld.absent hrest
      exact ⟨by simpa [hrest] using hreads, fun hnone => absurd (hnone value) (by simp)⟩
  · have hmem : ∀ value', (key, value') ∈ (key', value) :: properties ↔
        (key, value') ∈ properties := by simp [Ne.symm h]
    simp only [if_neg h, exists_eq_left]
    exact ⟨fun hheld => ⟨by simpa [hmem] using hheld.given, by simpa [hmem] using hheld.absent⟩,
      fun hheld => ⟨by simpa [hmem] using hheld.given, by simpa [hmem] using hheld.absent⟩⟩

/-- A value that can be read is held, when the keys are distinct. -/
theorem exists_holds_iff (hkeys : (properties.map Prod.fst).Nodup) :
    (∃ held, Holds properties key reads default held) ↔
      ∀ value, (key, value) ∈ properties → ∃ held, reads value held := by
  constructor
  · rintro ⟨held, hheld⟩ value hmem
    exact ⟨held, hheld.given value hmem⟩
  · intro h
    by_cases hany : ∃ value, (key, value) ∈ properties
    · obtain ⟨value, hmem⟩ := hany
      obtain ⟨held, hreads⟩ := h value hmem
      refine ⟨held, fun value' hmem' => ?_, fun hnone => absurd hmem (hnone value)⟩
      have hsame := List.inj_on_of_nodup_map hkeys hmem' hmem rfl
      simpa [(Prod.mk.inj hsame).2] using hreads
    · push Not at hany
      exact ⟨default, fun value hmem => absurd hmem (hany value), fun _ => rfl⟩

/-- What a field holds depends on the entries and not on their order. -/
theorem Holds.of_mem_iff {others : List (String × String)}
    (h : Holds properties key reads default held)
    (hmem : ∀ entry, entry ∈ others ↔ entry ∈ properties) :
    Holds others key reads default held :=
  ⟨by simpa [hmem] using h.given, by simpa [hmem] using h.absent⟩

end Fields

/-! ## One property -/

variable {config next : Config} {key value : String}

/-- Without properties a configuration stays. -/
theorem overlaid_nil : Overlaid config [] next ↔ next = config := by
  constructor
  · rintro ⟨h1, h2, h3, h4, h5⟩
    simp only [holds_nil] at h1 h2 h3 h4 h5
    cases next
    simp_all
  · rintro rfl
    constructor <;> simp [holds_nil]

/-- A number that a property holds. -/
theorem readNumber_eq_ok_iff {n : Nat} : readNumber key value = .ok n ↔ ReadsNumber value n := by
  unfold readNumber ReadsNumber
  rw [← Text.readUnsigned?_eq_some_iff]
  split <;> simp_all

/-- A word that a number fits. -/
theorem requireWord_eq_ok_iff {α : Type} {word? : Option α} {word : α} :
    requireWord key value word? = .ok word ↔ word? = some word := by
  cases word? <;> simp [requireWord]

/-- The names of the planner's keys behind their mark. -/
theorem propertyMark_append :
    propertyMark ++ "key.column" = "planner.key.column" ∧
      propertyMark ++ "window.start.column" = "planner.window.start.column" ∧
      propertyMark ++ "window.end.column" = "planner.window.end.column" ∧
      propertyMark ++ "sink.partitions" = "planner.sink.partitions" ∧
      propertyMark ++ "sink.replicas" = "planner.sink.replicas" := by decide

/-- A property is laid over a configuration unless it has an unknown key of the planner's or no
number in its range, and sets the field of its key. -/
theorem setProperty_eq_ok_iff :
    config.setProperty key value = .ok next ↔
      OnlyKnown [(key, value)] ∧ Overlaid config [(key, value)] next := by
  obtain ⟨hname, hstart, hend, hpartitions, hreplicas⟩ := propertyMark_append
  have hown : OnlyKnown [(key, value)] ↔
      (propertyMark.toList.isPrefixOf key.toList = true → key ∈ propertyKeys) := by
    simp [OnlyKnown, isOwn]
  rw [hown, overlaid_iff]
  simp only [holds_singleton, setProperty, hname, hstart, hend, hpartitions, hreplicas]
  obtain ⟨k1, k2, k3, k4, k5⟩ := next
  by_cases h1 : key = "planner.key.column"
  · simp [h1, propertyKeys, ReadsName]
    grind
  by_cases h2 : key = "planner.window.start.column"
  · simp [h2, propertyKeys, ReadsName]
    grind
  by_cases h3 : key = "planner.window.end.column"
  · simp [h3, propertyKeys, ReadsName]
    grind
  by_cases h4 : key = "planner.sink.partitions"
  · simp [h4, propertyKeys, bind_eq_ok_iff, readNumber_eq_ok_iff, requireWord_eq_ok_iff,
      Word.uint32?_eq_some_iff]
    grind
  by_cases h5 : key = "planner.sink.replicas"
  · simp [h5, propertyKeys, bind_eq_ok_iff, readNumber_eq_ok_iff, requireWord_eq_ok_iff,
      Word.uint16?_eq_some_iff]
    grind
  by_cases hmark : propertyMark.toList.isPrefixOf key.toList = true
  · simp [h1, h2, h3, h4, h5, hmark, propertyKeys]
  · simp [h1, h2, h3, h4, h5, hmark]
    cases config
    simp [eq_comm]

/-! ## Maps of properties -/

variable {properties : List (String × String)}

/-- Under distinct keys a first property is laid over before the others are. -/
theorem overlaid_cons (hkey : key ∉ properties.map Prod.fst) :
    Overlaid config ((key, value) :: properties) next ↔
      ∃ mid, Overlaid config [(key, value)] mid ∧ Overlaid mid properties next := by
  simp only [overlaid_iff, holds_cons hkey]
  constructor
  · rintro ⟨⟨column, h1⟩, ⟨start, h2⟩, ⟨stop, h3⟩, ⟨partitions, h4⟩, ⟨replicas, h5⟩⟩
    exact ⟨⟨column, start, stop, partitions, replicas⟩, ⟨h1.1, h2.1, h3.1, h4.1, h5.1⟩,
      ⟨h1.2, h2.2, h3.2, h4.2, h5.2⟩⟩
  · rintro ⟨mid, ⟨h1, h2, h3, h4, h5⟩, ⟨h1', h2', h3', h4', h5'⟩⟩
    exact ⟨⟨_, h1, h1'⟩, ⟨_, h2, h2'⟩, ⟨_, h3, h3'⟩, ⟨_, h4, h4'⟩, ⟨_, h5, h5'⟩⟩

/-- Laying the entries of a map over a configuration, in the order in which they come. -/
theorem setProperties_eq_ok_iff (hkeys : (properties.map Prod.fst).Nodup) :
    config.setProperties properties = .ok next ↔
      OnlyKnown properties ∧ Overlaid config properties next := by
  induction properties generalizing config with
  | nil =>
    simp [setProperties, OnlyKnown, overlaid_nil]
    exact eq_comm
  | cons entry rest ih =>
    obtain ⟨key, value⟩ := entry
    rw [List.map_cons, List.nodup_cons] at hkeys
    have hknown : OnlyKnown ((key, value) :: rest) ↔ OnlyKnown [(key, value)] ∧ OnlyKnown rest := by
      simp [OnlyKnown]
    rw [setProperties, bind_eq_ok_iff, overlaid_cons hkeys.1, hknown]
    simp only [setProperty_eq_ok_iff, ih hkeys.2]
    constructor
    · rintro ⟨mid, ⟨hfirst, hmid⟩, hrest, hnext⟩
      exact ⟨⟨hfirst, hrest⟩, mid, hmid, hnext⟩
    · rintro ⟨⟨hfirst, hrest⟩, mid, hmid, hnext⟩
      exact ⟨mid, ⟨hfirst, hmid⟩, hrest, hnext⟩

/-- Under distinct keys every entry counts. -/
theorem lastEntries_of_nodup (hkeys : (properties.map Prod.fst).Nodup) :
    lastEntries properties = properties := by
  induction properties with
  | nil => rfl
  | cons entry rest ih =>
    rw [List.map_cons, List.nodup_cons] at hkeys
    have hlast : rest.any (·.1 == entry.1) = false := by
      rw [List.any_eq_false]
      intro other hmem heq
      exact hkeys.1 (List.mem_map.2 ⟨other, hmem, by simpa using heq⟩)
    rw [lastEntries, hlast, ih hkeys.2]
    rfl

/-- Reading a map of properties. -/
theorem ofProperties_eq_ok_iff (hkeys : (properties.map Prod.fst).Nodup) :
    ofProperties properties = .ok config ↔
      OnlyKnown properties ∧ Overlaid default properties config ∧ config.validate = .ok () := by
  rw [ofProperties, lastEntries_of_nodup hkeys, bind_eq_ok_iff]
  simp only [setProperties_eq_ok_iff hkeys, bind_eq_ok_iff, Except.ok.injEq]
  constructor
  · rintro ⟨_, ⟨hknown, hoverlaid⟩, ⟨⟩, hvalid, rfl⟩
    exact ⟨hknown, hoverlaid, hvalid⟩
  · rintro ⟨hknown, hoverlaid, hvalid⟩
    exact ⟨config, ⟨hknown, hoverlaid⟩, (), hvalid, rfl⟩

/-- Properties describe a configuration when their numbers fit. -/
theorem exists_overlaid_iff (hkeys : (properties.map Prod.fst).Nodup) :
    (∃ config, Overlaid default properties config) ↔ NumbersFit properties := by
  constructor
  · rintro ⟨config, hconfig⟩
    exact ⟨fun value hmem => ⟨_, UInt32.toNat_lt _, hconfig.sinkPartitions.given value hmem⟩,
      fun value hmem => ⟨_, UInt16.toNat_lt _, hconfig.sinkReplicas.given value hmem⟩⟩
  · intro h
    have hname : ∀ key (base : String), ∃ held, Holds properties key ReadsName base held :=
      fun _ _ => (exists_holds_iff hkeys).2 fun value _ => ⟨trimmed value, rfl⟩
    obtain ⟨column, hcolumn⟩ := hname "planner.key.column" default.keyColumn
    obtain ⟨start, hstart⟩ := hname "planner.window.start.column" default.windowStartColumn
    obtain ⟨stop, hstop⟩ := hname "planner.window.end.column" default.windowEndColumn
    obtain ⟨partitions, hpartitions⟩ : ∃ held : UInt32, Holds properties "planner.sink.partitions"
        (fun value held => ReadsNumber value held.toNat) default.sinkPartitions held := by
      refine (exists_holds_iff hkeys).2 fun value hmem => ?_
      obtain ⟨n, hlt, hn⟩ := h.sinkPartitions value hmem
      exact ⟨UInt32.ofNat n, by rwa [UInt32.toNat_ofNat_of_lt' hlt]⟩
    obtain ⟨replicas, hreplicas⟩ : ∃ held : UInt16, Holds properties "planner.sink.replicas"
        (fun value held => ReadsNumber value held.toNat) default.sinkReplicas held := by
      refine (exists_holds_iff hkeys).2 fun value hmem => ?_
      obtain ⟨n, hlt, hn⟩ := h.sinkReplicas value hmem
      exact ⟨UInt16.ofNat n, by rwa [UInt16.toNat_ofNat_of_lt' hlt]⟩
    exact ⟨⟨column, start, stop, partitions, replicas⟩,
      hcolumn, hstart, hstop, hpartitions, hreplicas⟩

/-- The same entries in another order describe the same configurations. -/
theorem Overlaid.of_perm {others : List (String × String)}
    (h : Overlaid config properties next) (hperm : others.Perm properties) :
    Overlaid config others next :=
  ⟨h.keyColumn.of_mem_iff fun _ => hperm.mem_iff,
    h.windowStartColumn.of_mem_iff fun _ => hperm.mem_iff,
    h.windowEndColumn.of_mem_iff fun _ => hperm.mem_iff,
    h.sinkPartitions.of_mem_iff fun _ => hperm.mem_iff,
    h.sinkReplicas.of_mem_iff fun _ => hperm.mem_iff⟩

/-- Reading a map in another order gives the same configuration. -/
theorem ofProperties_of_perm {others : List (String × String)}
    (hkeys : (properties.map Prod.fst).Nodup) (hperm : others.Perm properties)
    (h : ofProperties properties = .ok config) : ofProperties others = .ok config := by
  have hkeys' : (others.map Prod.fst).Nodup := (hperm.map Prod.fst).nodup_iff.2 hkeys
  rw [ofProperties_eq_ok_iff hkeys] at h
  rw [ofProperties_eq_ok_iff hkeys']
  exact ⟨fun entry hentry => h.1 entry (hperm.mem_iff.1 hentry), h.2.1.of_perm hperm, h.2.2⟩

/-! ## Entries of others -/

/-- An entry of others is passed over. -/
theorem setProperty_of_not_own (h : isOwn (key, value) = false) :
    config.setProperty key value = .ok config := by
  have hkey : key ∉ propertyKeys := by
    intro hmem
    have hown : ∀ k ∈ propertyKeys, propertyMark.toList.isPrefixOf k.toList = true := by decide
    rw [isOwn, hown key hmem] at h
    cases h
  simp only [propertyKeys, List.mem_cons, List.not_mem_nil, or_false, not_or] at hkey
  rw [setProperty_eq_ok_iff, overlaid_iff]
  simp [OnlyKnown, h, holds_singleton, hkey]

/-- Only the planner's entries are laid over. -/
theorem setProperties_filter (config : Config) (properties : List (String × String)) :
    config.setProperties (properties.filter isOwn) = config.setProperties properties := by
  induction properties generalizing config with
  | nil => rfl
  | cons entry rest ih =>
    obtain ⟨key, value⟩ := entry
    cases hown : isOwn (key, value) with
    | true =>
      rw [List.filter_cons_of_pos hown, setProperties, setProperties]
      simp only [ih]
    | false =>
      rw [List.filter_cons_of_neg (by simp [hown]), ih, setProperties, setProperty_of_not_own hown]
      rfl

/-- Which of the planner's entries count does not depend on the entries of others. -/
theorem lastEntries_filter (properties : List (String × String)) :
    lastEntries (properties.filter isOwn) = (lastEntries properties).filter isOwn := by
  induction properties with
  | nil => rfl
  | cons entry rest ih =>
    cases hown : isOwn entry with
    | true =>
      have hany : (rest.filter isOwn).any (·.1 == entry.1) = rest.any (·.1 == entry.1) := by
        rw [List.any_filter]
        congr 1
        funext other
        by_cases hkey : other.1 = entry.1
        · simp [isOwn, hkey] at hown ⊢
          exact hown
        · simp [hkey]
      rw [List.filter_cons_of_pos hown, lastEntries, lastEntries, hany, ih]
      split <;> simp [hown]
    | false =>
      rw [List.filter_cons_of_neg (by simp [hown]), ih, lastEntries]
      split <;> simp [hown]

/-- Reading properties passes over the entries of others. -/
theorem ofProperties_filter (properties : List (String × String)) :
    ofProperties (properties.filter isOwn) = ofProperties properties := by
  rw [ofProperties, ofProperties, lastEntries_filter, setProperties_filter]

/-! ## Reading a map of properties -/

/-- What becomes of a map of properties, given as the list of its entries in some order. -/
structure OverlaysExactly (properties : List (String × String)) : Prop where
  /-- There is a configuration exactly when the planner's keys are known, the numbers can be read
  in their ranges, and what is overlaid is valid. -/
  succeeds_iff : (∃ config, ofProperties properties = .ok config) ↔
    OnlyKnown properties ∧ NumbersFit properties ∧
      ∃ config, Overlaid default properties config ∧ config.validate = .ok ()
  /-- Each field holds what its property says, or its default. -/
  fields : ∀ config, ofProperties properties = .ok config → Overlaid default properties config
  /-- In another order the entries fail too, or give the same configuration. -/
  anyOrder : ∀ order : List (String × String), order.Perm properties →
    (ofProperties order).toOption = (ofProperties properties).toOption
  /-- Entries of others change nothing, wherever they stand. -/
  othersIgnored : ∀ others : List (String × String),
    others.filter isOwn = properties.filter isOwn → ofProperties others = ofProperties properties

/-- Properties are laid over the defaults exactly and in any order. -/
theorem overlaysExactly {properties : List (String × String)}
    (hkeys : (properties.map Prod.fst).Nodup) : OverlaysExactly properties where
  succeeds_iff := by
    simp only [ofProperties_eq_ok_iff hkeys, ← exists_overlaid_iff hkeys]
    constructor
    · rintro ⟨config, hknown, hoverlaid, hvalid⟩
      exact ⟨hknown, ⟨config, hoverlaid⟩, config, hoverlaid, hvalid⟩
    · rintro ⟨hknown, -, config, hoverlaid, hvalid⟩
      exact ⟨config, hknown, hoverlaid, hvalid⟩
  fields config h := ((ofProperties_eq_ok_iff hkeys).1 h).2.1
  anyOrder order hperm := by
    have hkeys' : (order.map Prod.fst).Nodup := (hperm.map Prod.fst).nodup_iff.2 hkeys
    cases horder : ofProperties order with
    | ok config => rw [ofProperties_of_perm hkeys' hperm.symm horder]
    | error e =>
      cases hproperties : ofProperties properties with
      | ok config => simp [ofProperties_of_perm hkeys hperm hproperties] at horder
      | error e' => rfl
  othersIgnored others h := by
    rw [← ofProperties_filter others, h, ofProperties_filter]

/-- Two of the planner's properties among those of others, with blanks and a sign. -/
theorem overlaysExactly_partitionsAndColumn :
    ([("planner.sink.partitions", " +12 "), ("streams.commit.interval.ms", "100"),
        ("planner.key.column", "\tID ")].map Prod.fst).Nodup ∧
      OverlaysExactly [("planner.sink.partitions", " +12 "), ("streams.commit.interval.ms", "100"),
        ("planner.key.column", "\tID ")] ∧
      ofProperties [("planner.sink.partitions", " +12 "), ("streams.commit.interval.ms", "100"),
        ("planner.key.column", "\tID ")] = .ok ⟨"ID", "WINDOWSTART", "WINDOWEND", 12, 1⟩ :=
  ⟨by decide, overlaysExactly (by decide), rfl⟩

end StreamPlan.Config

import StreamPlan.Proofs.Json.Scalars

/-!
# Written values are read back

The text of a value is read as that value, when its integers are words and the members of its
objects have names of their own.  A double is left out: its text is rounded.

The reader is followed over the text of a value in any container.  Behind the last character it
holds the value, or the word that spells it, since a word ends only where something follows.

Main results:

- `Json.Exact`: the values that are read back.
- `Json.Reader.reads_of_exact`: the reader over the text of a value.
- `Json.parse?_text`: a written value is read back.
-/

namespace StreamPlan.Json

/-- Values without doubles, whose integers are words and whose objects have no name twice. -/
inductive Exact : Json → Prop where
  | null : Exact null
  | bool (b : Bool) : Exact (bool b)
  | int {n : Int} (hn : IsWord n) : Exact (int n)
  | str (s : String) : Exact (str s)
  | arr {items : List Json} (hitems : ∀ item ∈ items, Exact item) : Exact (arr items)
  | obj {members : List (String × Json)} (hnames : (members.map Prod.fst).Nodup)
      (hmembers : ∀ member ∈ members, Exact member.2) : Exact (obj members)

namespace Reader

/-- A reader that has come to the end of a value. -/
def Holds (context : List Open) (j : Json) (reader : Reader) : Prop :=
  reader = ⟨context, .done j⟩ ∨
    ∃ raw, ofWord? raw.reverse = some j ∧ reader = ⟨context, .word raw⟩

/-- A reader behind a value goes on with the container around it. -/
theorem Holds.step? {context : List Open} {j : Json} {reader : Reader} (h : Holds context j reader)
    {c : Char} (hc : inWord c = false) : reader.step? c = afterValue? context j c := by
  obtain rfl | ⟨raw, hraw, rfl⟩ := h
  · rfl
  · simp [Reader.step?, insideWord?, hc, hraw]

/-- The value behind which a text ends is the value of the text. -/
theorem Holds.finish? {j : Json} {reader : Reader} (h : Holds [] j reader) :
    reader.finish? = some j := by
  obtain rfl | ⟨raw, hraw, rfl⟩ := h
  · rfl
  · exact hraw

/-! ## Words -/

/-- The characters of a word are kept. -/
theorem run?_word (context : List Open) (raw : List Char) {cs : List Char}
    (h : ∀ c ∈ cs, inWord c = true) :
    run? ⟨context, .word raw⟩ cs = some ⟨context, .word (cs.reverse ++ raw)⟩ := by
  induction cs generalizing raw with
  | nil => rfl
  | cons c cs ih =>
    have hc := h c List.mem_cons_self
    have hrest := ih (c :: raw) fun d hd => h d (List.mem_cons_of_mem c hd)
    simp [run?, step?, insideWord?, hc, hrest]

/-- A place where a value may begin, with no name awaited. -/
def AwaitsValue (reader : Reader) : Prop :=
  (reader.place = .value ∨ reader.place = .firstItem) ∧
    ∀ before outer, reader.context ≠ .members before :: outer

/-- The first character of a value. -/
theorem AwaitsValue.step? {reader : Reader} (h : reader.AwaitsValue) {c : Char}
    (hspace : isSpace c = false) (hclose : c ≠ ']') :
    reader.step? c = some (beginValue reader.context c) := by
  obtain ⟨context, place⟩ := reader
  obtain ⟨rfl | rfl, -⟩ := h <;> simp [Reader.step?, hspace, hclose]

/-- A character of a word is no mark of the format. -/
theorem ne_of_inWord {c : Char} (h : inWord c = true) {mark : Char} (hmark : inWord mark = false) :
    c ≠ mark := by
  rintro rfl
  simp [h] at hmark

/-- A word is read where a value is awaited. -/
theorem AwaitsValue.run?_word {reader : Reader} (h : reader.AwaitsValue) {cs : List Char}
    {j : Json} (hcs : ∀ c ∈ cs, inWord c = true) (hj : ofWord? cs = some j) :
    ∃ next, reader.run? cs = some next ∧ Holds reader.context j next := by
  cases cs with
  | nil => simp [ofWord?, ofNumeral?, ofUnsigned?, isWhole] at hj
  | cons c cs =>
    have hc := hcs c List.mem_cons_self
    have hmark : ∀ mark, inWord mark = false → c ≠ mark := fun mark => ne_of_inWord hc
    have hspace : isSpace c = false := by
      simp [isSpace, hmark ' ' rfl, hmark '\n' rfl, hmark '\t' rfl, hmark '\r' rfl]
    have hbegin : beginValue reader.context c = ⟨reader.context, .word [c]⟩ := by
      simp [beginValue, hmark '[' rfl, hmark '\x7b' rfl, hmark '\x22' rfl]
    have hrest := Reader.run?_word reader.context [c] fun d hd => hcs d (List.mem_cons_of_mem c hd)
    refine ⟨⟨reader.context, .word (cs.reverse ++ [c])⟩, ?_, .inr ⟨_, ?_, rfl⟩⟩
    · rw [run?, h.step? hspace (hmark ']' rfl), Option.bind_some, hbegin, hrest]
    · simpa using hj

/-! ## Texts between quotes -/

/-- No hexadecimal digit ends a text or begins an escape. -/
theorem hexDigit_ne (n : Nat) : hexDigit n ≠ '\x22' ∧ hexDigit n ≠ '\x5c' := by
  have hall : ∀ d < 16, Nat.digitChar d ≠ '\x22' ∧ Nat.digitChar d ≠ '\x5c' := by decide
  exact hall (n % 16) (Nat.mod_lt n (by decide))

/-- The characters that one character is written as are kept. -/
theorem run?_escape (context : List Open) (raw : List Char) (c : Char) :
    run? ⟨context, .quoted raw false⟩ (escape c) =
      some ⟨context, .quoted ((escape c).reverse ++ raw) false⟩ := by
  obtain ⟨letter, -, -, hescape⟩ | ⟨-, hescape⟩ | ⟨hquote, hbackslash, -, hescape⟩ :=
    escape_cases c
  · simp [hescape, run?, step?, insideQuoted?]
  · simp [hescape, run?, step?, insideQuoted?, hexDigit_ne]
  · simp [hescape, run?, step?, insideQuoted?, hquote, hbackslash]

/-- The characters that a text is written as are kept. -/
theorem run?_flatMap_escape (context : List Open) (raw cs : List Char) :
    run? ⟨context, .quoted raw false⟩ (cs.flatMap escape) =
      some ⟨context, .quoted ((cs.flatMap escape).reverse ++ raw) false⟩ := by
  induction cs generalizing raw with
  | nil => rfl
  | cons c cs ih => simp [run?_append, run?_escape, ih]

/-- A text is read up to its second quote, which ends it. -/
theorem run?_quoted (context : List Open) (s : String) :
    run? ⟨context, .quoted [] false⟩ (s.toList.flatMap escape ++ ['\x22']) =
      endQuoted? context (s.toList.flatMap escape).reverse := by
  simp [run?_append, run?_flatMap_escape, run?, step?, insideQuoted?]

/-- A quoted text is a value where a value is awaited. -/
theorem AwaitsValue.run?_quoted {reader : Reader} (h : reader.AwaitsValue) (s : String) :
    reader.run? (quoted s).toList = some ⟨reader.context, .done (str s)⟩ := by
  have hbegin := h.step? (c := '\x22') rfl (by decide)
  have hend : endQuoted? reader.context (s.toList.flatMap escape).reverse =
      some ⟨reader.context, .done (str s)⟩ := by
    rw [endQuoted?, List.reverse_reverse, unescape?_flatMap_escape, Option.map_some]
    split
    · exact absurd ‹_› (h.2 _ _)
    · rw [String.ofList_toList]
  rw [quoted, String.toList_ofList, List.append_assoc, List.singleton_append, run?, hbegin]
  simp [beginValue, Reader.run?_quoted, hend]

/-- A quoted text is a name where a name is awaited. -/
theorem run?_name {place : Place} (hplace : place = .name ∨ place = .firstName)
    (before : List (String × Json)) (outer : List Open) (name : String) :
    run? ⟨.members before :: outer, place⟩ (quoted name).toList =
      some ⟨.member before name :: outer, .colon⟩ := by
  have hbegin : step? ⟨.members before :: outer, place⟩ '\x22' =
      some ⟨.members before :: outer, .quoted [] false⟩ := by
    obtain rfl | rfl := hplace <;> simp [step?, isSpace]
  have hend : endQuoted? (.members before :: outer) (name.toList.flatMap escape).reverse =
      some ⟨.member before name :: outer, .colon⟩ := by
    simp [endQuoted?, unescape?_flatMap_escape]
  rw [quoted, String.toList_ofList, List.append_assoc, List.singleton_append, run?, hbegin,
    Option.bind_some, Reader.run?_quoted, hend]

/-! ## Arrays and objects -/

/-- The text of a value behind another one of its array. -/
def moreItem (item : Json) : List Char := ',' :: item.text.toList

/-- The text of a member of an object. -/
def memberText (member : String × Json) : List Char :=
  (quoted member.1).toList ++ ':' :: member.2.text.toList

/-- The text of a member behind another one of its object. -/
def moreMember (member : String × Json) : List Char := ',' :: memberText member

/-- The characters between the ends of an array. -/
theorem toList_intercalate_itemTexts (item : Json) (rest : List Json) :
    (",".intercalate (itemTexts (item :: rest))).toList =
      item.text.toList ++ rest.flatMap moreItem := by
  induction rest generalizing item with
  | nil => simp [itemTexts, String.intercalate_singleton]
  | cons other rest ih =>
    simp only [itemTexts] at ih ⊢
    rw [String.intercalate_cons_cons, String.toList_append, String.toList_append, ih,
      List.flatMap_cons, moreItem]
    simp

/-- The characters between the ends of an object. -/
theorem toList_intercalate_memberTexts (member : String × Json) (rest : List (String × Json)) :
    (",".intercalate (memberTexts (member :: rest))).toList =
      memberText member ++ rest.flatMap moreMember := by
  induction rest generalizing member with
  | nil => simp [memberTexts, memberText, String.intercalate_singleton]
  | cons other rest ih =>
    simp only [memberTexts] at ih ⊢
    rw [String.intercalate_cons_cons, String.toList_append, String.toList_append, ih,
      List.flatMap_cons, moreMember]
    simp [memberText]

/-- Whether the reader comes to hold a value over its text, wherever a value is awaited. -/
def Reads (j : Json) : Prop :=
  ∀ reader : Reader, reader.AwaitsValue →
    ∃ next, reader.run? j.text.toList = some next ∧ Holds reader.context j next

/-- Behind an item come the other items of its array, and the end of the array. -/
theorem Holds.run?_items {before : List Json} {outer : List Open} {item : Json} {reader : Reader}
    (h : Holds (.items before :: outer) item reader) {rest : List Json}
    (hrest : ∀ other ∈ rest, Reads other) :
    reader.run? (rest.flatMap moreItem ++ [']']) =
      some ⟨outer, .done (arr (before.reverse ++ item :: rest))⟩ := by
  induction rest generalizing before item reader with
  | nil =>
    have hclose := h.step? (c := ']') rfl
    simp [run?, hclose, afterValue?, isSpace]
  | cons other rest ih =>
    have hcomma := h.step? (c := ',') rfl
    have hawaits : AwaitsValue ⟨.items (item :: before) :: outer, .value⟩ := ⟨.inl rfl, by simp⟩
    obtain ⟨next, hnext, hholds⟩ := hrest other List.mem_cons_self _ hawaits
    have hothers := ih hholds fun x hx => hrest x (List.mem_cons_of_mem other hx)
    rw [List.reverse_cons, List.append_assoc, List.singleton_append] at hothers
    have hstep : afterValue? (.items before :: outer) item ',' =
        some ⟨.items (item :: before) :: outer, .value⟩ := rfl
    rw [List.flatMap_cons, List.append_assoc, moreItem, List.cons_append, run?, hcomma, hstep,
      Option.bind_some, run?_append, hnext, Option.bind_some, hothers]

/-- An array is read when its items are. -/
theorem reads_arr {items : List Json} (h : ∀ item ∈ items, Reads item) : Reads (arr items) := by
  intro reader hreader
  have hopen := hreader.step? (c := '[') rfl (by decide)
  have hbegin : beginValue reader.context '[' = ⟨.items [] :: reader.context, .firstItem⟩ := rfl
  refine ⟨⟨reader.context, .done (arr items)⟩, ?_, .inl rfl⟩
  cases items with
  | nil =>
    have hclose : step? ⟨.items [] :: reader.context, .firstItem⟩ ']' =
        some ⟨reader.context, .done (arr [])⟩ := rfl
    change reader.run? ['[', ']'] = _
    rw [run?, hopen, Option.bind_some, hbegin, run?, hclose, Option.bind_some, run?]
  | cons item rest =>
    have hawaits : AwaitsValue ⟨.items [] :: reader.context, .firstItem⟩ := ⟨.inr rfl, by simp⟩
    obtain ⟨next, hnext, hholds⟩ := h item List.mem_cons_self _ hawaits
    have hothers := hholds.run?_items fun x hx => h x (List.mem_cons_of_mem item hx)
    have htext : (arr (item :: rest)).text.toList =
        '[' :: (item.text.toList ++ (rest.flatMap moreItem ++ [']'])) := by
      rw [text, String.toList_append, String.toList_append, toList_intercalate_itemTexts]
      simp
    rw [htext, run?, hopen, Option.bind_some, hbegin, run?_append, hnext, Option.bind_some, hothers,
      List.reverse_nil, List.nil_append]

/-- A member is read when its value is. -/
theorem run?_memberText {place : Place} (hplace : place = .name ∨ place = .firstName)
    (before : List (String × Json)) (outer : List Open) {member : String × Json}
    (h : Reads member.2) :
    ∃ next, run? ⟨.members before :: outer, place⟩ (memberText member) = some next ∧
      Holds (.member before member.1 :: outer) member.2 next := by
  have hcolon : step? ⟨.member before member.1 :: outer, .colon⟩ ':' =
      some ⟨.member before member.1 :: outer, .value⟩ := rfl
  have hawaits : AwaitsValue ⟨.member before member.1 :: outer, .value⟩ := ⟨.inl rfl, by simp⟩
  obtain ⟨next, hnext, hholds⟩ := h _ hawaits
  refine ⟨next, ?_, hholds⟩
  rw [memberText, run?_append, run?_name hplace, Option.bind_some, run?, hcolon, Option.bind_some,
    hnext]

/-- A member with a name of its own is put in front of the others. -/
theorem addMember_eq_cons {before rest : List (String × Json)} {member : String × Json}
    (hnames : ((before.reverse ++ member :: rest).map Prod.fst).Nodup) :
    addMember member.1 member.2 before = member :: before := by
  have hkept : ∀ other ∈ before, (other.1 != member.1) = true := by
    intro other hother
    rw [List.map_append, List.nodup_append] at hnames
    have hne := hnames.2.2 other.1 (List.mem_map_of_mem (List.mem_reverse.2 hother)) member.1
      (by simp)
    simpa using hne
  rw [addMember, List.filter_eq_self.2 hkept]

/-- Behind a member come the other members of its object, and the end of the object. -/
theorem Holds.run?_members {before : List (String × Json)} {outer : List Open}
    {member : String × Json} {reader : Reader}
    (h : Holds (.member before member.1 :: outer) member.2 reader) {rest : List (String × Json)}
    (hnames : ((before.reverse ++ member :: rest).map Prod.fst).Nodup)
    (hrest : ∀ other ∈ rest, Reads other.2) :
    reader.run? (rest.flatMap moreMember ++ ['\x7d']) =
      some ⟨outer, .done (obj (before.reverse ++ member :: rest))⟩ := by
  induction rest generalizing before member reader with
  | nil =>
    have hclose := h.step? (c := '\x7d') rfl
    have hstep : afterValue? (.member before member.1 :: outer) member.2 '\x7d' =
        some ⟨outer, .done (obj (addMember member.1 member.2 before).reverse)⟩ := rfl
    rw [List.flatMap_nil, List.nil_append, run?, hclose, hstep, addMember_eq_cons hnames,
      Option.bind_some, run?, List.reverse_cons]
  | cons other rest ih =>
    have hcomma := h.step? (c := ',') rfl
    have hstep : afterValue? (.member before member.1 :: outer) member.2 ',' =
        some ⟨.members (addMember member.1 member.2 before) :: outer, .name⟩ := rfl
    obtain ⟨next, hnext, hholds⟩ :=
      run?_memberText (.inl rfl) (member :: before) outer (hrest other List.mem_cons_self)
    have hothers := ih hholds (by simpa using hnames)
      fun x hx => hrest x (List.mem_cons_of_mem other hx)
    rw [List.reverse_cons, List.append_assoc, List.singleton_append] at hothers
    rw [List.flatMap_cons, List.append_assoc, moreMember, List.cons_append, run?, hcomma, hstep,
      addMember_eq_cons hnames, Option.bind_some, run?_append, hnext, Option.bind_some, hothers]

/-- An object without a name twice is read when its values are. -/
theorem reads_obj {members : List (String × Json)} (hnames : (members.map Prod.fst).Nodup)
    (h : ∀ member ∈ members, Reads member.2) : Reads (obj members) := by
  intro reader hreader
  have hopen := hreader.step? (c := '\x7b') rfl (by decide)
  have hbegin : beginValue reader.context '\x7b' = ⟨.members [] :: reader.context, .firstName⟩ :=
    rfl
  refine ⟨⟨reader.context, .done (obj members)⟩, ?_, .inl rfl⟩
  cases members with
  | nil =>
    have hclose : step? ⟨.members [] :: reader.context, .firstName⟩ '\x7d' =
        some ⟨reader.context, .done (obj [])⟩ := rfl
    change reader.run? ['\x7b', '\x7d'] = _
    rw [run?, hopen, Option.bind_some, hbegin, run?, hclose, Option.bind_some, run?]
  | cons member rest =>
    obtain ⟨next, hnext, hholds⟩ :=
      run?_memberText (.inr rfl) [] reader.context (h member List.mem_cons_self)
    have hothers := hholds.run?_members hnames fun x hx => h x (List.mem_cons_of_mem member hx)
    have htext : (obj (member :: rest)).text.toList =
        '\x7b' :: (memberText member ++ (rest.flatMap moreMember ++ ['\x7d'])) := by
      rw [text, String.toList_append, String.toList_append, toList_intercalate_memberTexts]
      simp
    rw [htext, run?, hopen, Option.bind_some, hbegin, run?_append, hnext, Option.bind_some, hothers,
      List.reverse_nil, List.nil_append]

/-- The reader comes to hold a value over its text, in any container. -/
theorem reads_of_exact {j : Json} (h : j.Exact) : Reads j := by
  induction h with
  | null =>
    intro reader hreader
    have hword : ['n', 'u', 'l', 'l'].all inWord = true := rfl
    exact hreader.run?_word (List.all_eq_true.1 hword) rfl
  | bool b =>
    intro reader hreader
    have htrue : ['t', 'r', 'u', 'e'].all inWord = true := rfl
    have hfalse : ['f', 'a', 'l', 's', 'e'].all inWord = true := rfl
    cases b with
    | true => exact hreader.run?_word (List.all_eq_true.1 htrue) rfl
    | false => exact hreader.run?_word (List.all_eq_true.1 hfalse) rfl
  | int hn =>
    exact fun reader hreader =>
      hreader.run?_word (fun c => inWord_of_mem_toString) (ofWord?_toString hn)
  | str s => exact fun reader hreader => ⟨_, hreader.run?_quoted s, .inl rfl⟩
  | arr _ hitems => exact reads_arr hitems
  | obj hnames _ hmembers => exact reads_obj hnames hmembers

end Reader

/-- A written value is read back. -/
theorem parse?_text {j : Json} (h : j.Exact) : parse? j.text = some j := by
  obtain ⟨reader, hreader, hholds⟩ :=
    Reader.reads_of_exact h Reader.start ⟨.inl rfl, by simp [Reader.start]⟩
  rw [parse?, hreader, Option.bind_some, hholds.finish?]

end StreamPlan.Json

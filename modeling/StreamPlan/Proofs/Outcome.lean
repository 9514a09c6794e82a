/-!
# Outcomes of steps that may fail

A computation that goes through several steps succeeds only if every step does, and fails with
the error of the first step that does not.

Main results:

- `bind_eq_ok_iff`: what a sequence of two steps that succeeds went through.
- `mapError_eq_ok_iff`: rewording a failure changes no success.
- `mapError_bind`: rewording the failure of two steps.
- `FailsWith.bind`: what two steps can fail with.
- `Alike.bind`: two computations that go through the same steps.
- `Follows.bind`: a computation that succeeds where another does.
-/

namespace StreamPlan

variable {ε ε' α β : Type}

/-- Two steps succeed exactly when the first does and the second does on its result. -/
theorem bind_eq_ok_iff {first : Except ε α} {next : α → Except ε β} {b : β} :
    (first >>= next) = .ok b ↔ ∃ a, first = .ok a ∧ next a = .ok b := by
  cases first with
  | error e => simp [bind, Except.bind]
  | ok a => simp [bind, Except.bind]

/-- Rewording a failure changes no success. -/
theorem mapError_eq_ok_iff {result : Except ε α} {reword : ε → ε'} {a : α} :
    result.mapError reword = .ok a ↔ result = .ok a := by
  cases result with
  | error e => exact iff_of_false nofun nofun
  | ok b =>
    change Except.ok b = .ok a ↔ _
    rw [Except.ok.injEq, Except.ok.injEq]

/-- Rewording the failure of two steps rewords that of each. -/
theorem mapError_bind (first : Except ε α) (next : α → Except ε β) (reword : ε → ε') :
    (first >>= next).mapError reword =
      first.mapError reword >>= fun a => (next a).mapError reword := by
  cases first <;> rfl

/-- Failures that are reworded twice are reworded once. -/
theorem mapError_mapError {ε'' : Type} (result : Except ε α) (reword : ε → ε') (again : ε' → ε'') :
    (result.mapError reword).mapError again = result.mapError (again ∘ reword) := by
  cases result <;> rfl

/-- A result computed from a success comes from a success. -/
theorem map_eq_ok_iff {result : Except ε α} {f : α → β} {b : β} :
    result.map f = .ok b ↔ ∃ a, result = .ok a ∧ f a = b := by
  cases result <;> simp [Except.map]

/-! ## What a computation fails with -/

/-- Whatever the computation fails with has the property. -/
def FailsWith (P : ε → Prop) (outcome : Except ε α) : Prop := ∀ e, outcome = .error e → P e

section FailsWith

variable {P : ε → Prop}

/-- A success does not fail. -/
theorem failsWith_ok (a : α) : FailsWith P (.ok a : Except ε α) := nofun

/-- A failure fails with its error. -/
theorem failsWith_error {e : ε} (h : P e) : FailsWith P (.error e : Except ε α) := by
  rintro _ ⟨⟩
  exact h

/-- Two steps fail with what the first fails with, or the second after it. -/
theorem FailsWith.bind {first : Except ε α} {next : α → Except ε β} (h : FailsWith P first)
    (hnext : ∀ a, first = .ok a → FailsWith P (next a)) : FailsWith P (first >>= next) := by
  cases first with
  | error e => exact failsWith_error (h e rfl)
  | ok a => exact hnext a rfl

/-- A result computed from a success fails with what that would have failed with. -/
theorem FailsWith.map {result : Except ε α} (h : FailsWith P result) (f : α → β) :
    FailsWith P (result.map f) := by
  cases result with
  | error e => exact failsWith_error (h e rfl)
  | ok a => exact failsWith_ok (f a)

/-- A reworded computation fails with the new wording. -/
theorem failsWith_mapError {result : Except ε' α} {reword : ε' → ε}
    (h : ∀ e, result = .error e → P (reword e)) : FailsWith P (result.mapError reword) := by
  cases result with
  | error e => exact failsWith_error (h e rfl)
  | ok a => exact failsWith_ok a

end FailsWith

/-! ## Two computations side by side -/

/-- Two computations fail with the same error, or succeed with related results. -/
inductive Alike (R : α → β → Prop) : Except ε α → Except ε β → Prop
  | ok {a : α} {b : β} (related : R a b) : Alike R (.ok a) (.ok b)
  | error (e : ε) : Alike R (.error e) (.error e)

/-- A computation is like itself. -/
theorem Alike.refl (outcome : Except ε α) : Alike Eq outcome outcome := by
  cases outcome with
  | error e => exact .error e
  | ok a => exact .ok rfl

/-- What is like a success is a success with a related result. -/
theorem Alike.eq_ok {R : α → β → Prop} {a : α} {right : Except ε β}
    (h : Alike R (.ok a) right) : ∃ b, right = .ok b ∧ R a b := by
  cases h with
  | ok related => exact ⟨_, rfl, related⟩

/-- What is like a failure is that failure. -/
theorem Alike.eq_error {R : α → β → Prop} {e : ε} {right : Except ε β}
    (h : Alike R (.error e) right) : right = .error e := by
  cases h with
  | error => rfl

/-- Related results are also related as that implies. -/
theorem Alike.imp {R S : α → β → Prop} {left : Except ε α} {right : Except ε β}
    (h : Alike R left right) (himp : ∀ a b, R a b → S a b) : Alike S left right := by
  cases h with
  | ok related => exact .ok (himp _ _ related)
  | error e => exact .error e

/-- Two computations stay alike when their steps are, on related results. -/
theorem Alike.bind {γ δ : Type} {R : α → β → Prop} {S : γ → δ → Prop} {left : Except ε α}
    {right : Except ε β} {f : α → Except ε γ} {g : β → Except ε δ} (h : Alike R left right)
    (hnext : ∀ a b, R a b → Alike S (f a) (g b)) : Alike S (left >>= f) (right >>= g) := by
  cases h with
  | ok related => exact hnext _ _ related
  | error e => exact .error e

/-- Two computations stay alike when their errors are reworded. -/
theorem Alike.mapError {R : α → β → Prop} {left : Except ε α} {right : Except ε β}
    (h : Alike R left right) (reword : ε → ε') :
    Alike R (left.mapError reword) (right.mapError reword) := by
  cases h with
  | ok related => exact .ok related
  | error e => exact .error (reword e)

/-! ## One computation after another -/

/-- Where the first computation succeeds, the other succeeds with a related result. -/
def Follows (R : α → β → Prop) (outcome : Except ε α) (other : Except ε' β) : Prop :=
  ∀ a, outcome = .ok a → ∃ b, other = .ok b ∧ R a b

section Follows

variable {R : α → β → Prop}

/-- A success is followed by a related success. -/
theorem follows_ok {a : α} {b : β} (h : R a b) :
    Follows R (.ok a : Except ε α) (.ok b : Except ε' β) := by
  rintro _ ⟨⟩
  exact ⟨b, rfl, h⟩

/-- Everything follows a failure. -/
theorem follows_error (e : ε) (other : Except ε' β) :
    Follows R (.error e : Except ε α) other := nofun

/-- A computation follows itself. -/
theorem Follows.refl {R : α → α → Prop} {outcome : Except ε α}
    (h : ∀ a, outcome = .ok a → R a a) : Follows R outcome outcome :=
  fun a ha => ⟨a, ha, h a ha⟩

/-- A related result is also one that the relation implies. -/
theorem Follows.imp {S : α → β → Prop} {outcome : Except ε α} {other : Except ε' β}
    (h : Follows R outcome other) (himp : ∀ a b, R a b → S a b) : Follows S outcome other := by
  intro a ha
  obtain ⟨b, hb, hab⟩ := h a ha
  exact ⟨b, hb, himp a b hab⟩

/-- A computation follows another when its steps do, on related results. -/
theorem Follows.bind {γ δ : Type} {S : γ → δ → Prop} {outcome : Except ε α}
    {other : Except ε' β} {f : α → Except ε γ} {g : β → Except ε' δ} (h : Follows R outcome other)
    (hnext : ∀ a b, R a b → Follows S (f a) (g b)) :
    Follows S (outcome >>= f) (other >>= g) := by
  intro c hc
  obtain ⟨a, ha, hc⟩ := bind_eq_ok_iff.1 hc
  obtain ⟨b, hb, hab⟩ := h a ha
  obtain ⟨d, hd, hcd⟩ := hnext a b hab c hc
  exact ⟨d, bind_eq_ok_iff.2 ⟨b, hb, hd⟩, hcd⟩

/-- A computation follows another when their errors are reworded. -/
theorem Follows.mapError {ε₁ ε₂ : Type} {outcome : Except ε α} {other : Except ε' β}
    (h : Follows R outcome other) (reword : ε → ε₁) (reword' : ε' → ε₂) :
    Follows R (outcome.mapError reword) (other.mapError reword') := by
  intro a ha
  obtain ⟨b, hb, hab⟩ := h a (mapError_eq_ok_iff.1 ha)
  exact ⟨b, mapError_eq_ok_iff.2 hb, hab⟩

/-- What is known of the results of the first computation may be used. -/
theorem Follows.and_left {P : α → Prop} {outcome : Except ε α} {other : Except ε' β}
    (h : Follows R outcome other) (hP : ∀ a, outcome = .ok a → P a) :
    Follows (fun a b => P a ∧ R a b) outcome other := by
  intro a ha
  obtain ⟨b, hb, hab⟩ := h a ha
  exact ⟨b, hb, hP a ha, hab⟩

end Follows

end StreamPlan

/-!
# Outcomes of steps one after the other

A computation that may fail succeeds just if each of its steps does, and fails with the fault of
the first step that fails. These lemmas take such a computation apart step by step.

A `do` block unfolds to binds, whose cases on both outcomes would have to be taken up anew wherever
one is looked at. Here they are said once, as equivalences, so that a block of many steps is taken
apart by rewriting and `obtain`, in the order of its steps and with a name for what each one yields.

For faults the order counts: a step is reached only if those before it have succeeded. So what a
sequence fails with is told together with what stands before it (`forM_eq_error`), so that the first
check that fails can be named.
-/

set_option autoImplicit false

namespace Flowmeter.Outcome

variable {ε ε' α β : Type}

theorem bind_eq_ok {m : Except ε α} {f : α → Except ε β} {b : β} :
    (m >>= f) = .ok b ↔ ∃ a, m = .ok a ∧ f a = .ok b := by
  cases m <;> simp [bind, Except.bind]

theorem bind_eq_error {m : Except ε α} {f : α → Except ε β} {fault : ε} :
    (m >>= f) = .error fault ↔ m = .error fault ∨ ∃ a, m = .ok a ∧ f a = .error fault := by
  cases m <;> simp [bind, Except.bind]

theorem mapError_eq_ok {m : Except ε α} {report : ε → ε'} {a : α} :
    m.mapError report = .ok a ↔ m = .ok a := by
  cases m <;> constructor <;> intro h <;> cases h <;> rfl

theorem mapError_eq_error {m : Except ε α} {report : ε → ε'} {fault' : ε'} :
    m.mapError report = .error fault' ↔ ∃ fault, m = .error fault ∧ report fault = fault' := by
  cases m with
  | ok a => exact ⟨fun h => (by cases h), fun ⟨_, h, _⟩ => (by cases h)⟩
  | error fault =>
    show Except.error (report fault) = .error fault' ↔ _
    simp

/-! ## One after the other -/

/-- A computation for each of some things succeeds just if each does. -/
theorem forM_eq_ok {f : α → Except ε Unit} {l : List α} :
    l.forM f = .ok () ↔ ∀ a ∈ l, f a = .ok () := by
  induction l with
  | nil => exact ⟨fun _ => by simp, fun _ => rfl⟩
  | cons a rest ih =>
    show (f a >>= fun _ => rest.forM f) = .ok () ↔ _
    rw [bind_eq_ok, List.forall_mem_cons, ← ih]
    exact ⟨fun ⟨_, ha, hrest⟩ => ⟨ha, hrest⟩, fun ⟨ha, hrest⟩ => ⟨(), ha, hrest⟩⟩

/-- It fails with the fault of the first thing that fails. -/
theorem forM_eq_error {f : α → Except ε Unit} {l : List α} {fault : ε} :
    l.forM f = .error fault ↔ ∃ before a after, l = before ++ a :: after ∧
      (∀ b ∈ before, f b = .ok ()) ∧ f a = .error fault := by
  induction l with
  | nil =>
    refine ⟨fun h => (by cases h), ?_⟩
    rintro ⟨before, a, after, h, -⟩
    cases before <;> cases h
  | cons a rest ih =>
    show (f a >>= fun _ => rest.forM f) = .error fault ↔ _
    rw [bind_eq_error]
    constructor
    · rintro (ha | ⟨_, ha, hrest⟩)
      · exact ⟨[], a, rest, rfl, by simp, ha⟩
      · obtain ⟨before, b, after, rfl, hbefore, hb⟩ := ih.mp hrest
        exact ⟨a :: before, b, after, rfl, List.forall_mem_cons.mpr ⟨ha, hbefore⟩, hb⟩
    · rintro ⟨before, b, after, heq, hbefore, hb⟩
      cases before with
      | nil => cases heq; exact Or.inl hb
      | cons c before =>
        cases heq
        obtain ⟨hc, hbefore⟩ := List.forall_mem_cons.mp hbefore
        exact Or.inr ⟨(), hc, ih.mpr ⟨before, b, after, rfl, hbefore, hb⟩⟩

/-- What is made of each result may as well be made on the way. -/
theorem map_mapM {γ : Type} (f : α → Except ε β) (g : β → γ) (l : List α) :
    (l.mapM f).map (List.map g) = l.mapM fun a => (f a).map g := by
  induction l with
  | nil => rfl
  | cons a rest ih =>
    rw [List.mapM_cons, List.mapM_cons, ← ih]
    cases f a with
    | error fault => rfl
    | ok b => cases rest.mapM f <;> rfl

/-! ## Outcomes that can be computed

An outcome may hold what has no decidable equality, such as a settled configuration. Then the
outcome of a fixed run cannot be compared as a whole, but what is asked of it can be computed. -/

/-- Whether a computation succeeds with something of a kind. -/
def satisfies (p : α → Bool) : Except ε α → Bool
  | .ok a => p a
  | .error _ => false

theorem exists_of_satisfies {p : α → Bool} {m : Except ε α} (h : satisfies p m = true) :
    ∃ a, m = .ok a ∧ p a = true := by
  cases m with
  | ok a => exact ⟨a, rfl, h⟩
  | error fault => cases h

/-- Whether a computation fails with something of a kind. -/
def refuses (p : ε → Bool) : Except ε α → Bool
  | .ok _ => false
  | .error fault => p fault

theorem exists_of_refuses {p : ε → Bool} {m : Except ε α} (h : refuses p m = true) :
    ∃ fault, m = .error fault ∧ p fault = true := by
  cases m with
  | ok a => cases h
  | error fault => exact ⟨fault, rfl, h⟩

end Flowmeter.Outcome

import Flowmeter.Proofs.Config.Source
import Flowmeter.Proofs.Config.Variables

/-!
# Laying the layers over each other

The settings of a file are laid over the built-in ones, those of the environment are written over
both, and what is given over all. It takes a mapping to lay anything over; then only a number that
is none stands in the way, and what comes of it is a mapping.

Later modules see the layers as one function with two results. Where the settings of the document
are a mapping, the result is a mapping too or the fault of one number (`layered_of_some`); where
they are not, it is a mismatch (`layered_of_none`). What each setting is in the result is a matter
of its own and is told where precedence is.

What is given on the command line is written last and one after the other. It could be written into
a mapping that has several names, and would then change under all of them (`Document.insert`). The
built-in sections have no such names, since the layers below have written them anew, and this is
what `applyGiven_eq` uses.
-/

set_option autoImplicit false

namespace Flowmeter.Config

open Association

/-! ## What is given -/

def Value.isNull : Value → Bool
  | .scalar .null => true
  | _ => false

/-- What is given that is not null. -/
def settled (given : List (String × Value)) : List (String × Value) :=
  given.filter fun g => !g.2.isNull

theorem OfSettings.settled {given : List (String × Value)} (h : OfSettings given) :
    OfSettings (settled given) :=
  fun g hg => h g (List.mem_of_mem_filter hg)

theorem applyGiven_cons (g : String × Value) (rest : List (String × Value)) (d : Document) :
    applyGiven (g :: rest) d =
      applyGiven rest (if g.2.isNull then d else d.insert (keysOf g.1) g.2) := by
  obtain ⟨name, v⟩ := g
  cases v with
  | scalar s => cases s <;> rfl
  | _ => rfl

theorem value_applyGiven (given : List (String × Value)) {d : Document}
    {entries : List (Scalar × Value)} (h : d.value = .map entries) :
    ∃ written, (applyGiven given d).value = .map written := by
  induction given generalizing d entries with
  | nil => exact ⟨entries, h⟩
  | cons g rest ih =>
    rw [applyGiven_cons]
    split
    · exact ih h
    · obtain ⟨written, hwritten⟩ := d.value_insert h (keysOf g.1) g.2
      exact ih hwritten

/-- Where the sections are written out, what is given is written into them. -/
theorem applyGiven_eq {given : List (String × Value)} (hgiven : OfSettings given) (d : Document)
    {upper entries : List (Scalar × Value)} (h : Laid upper entries) :
    applyGiven given { d with value := .map entries } =
      { d with value := .map (writeAll (settled given) entries) } := by
  induction given generalizing entries with
  | nil => rfl
  | cons g rest ih =>
    rw [applyGiven_cons, settled, List.filter_cons]
    -- what is given as null is passed over, as if it had not been given
    cases hnull : g.2.isNull with
    | true => exact ih hgiven.tail h
    | false =>
      obtain ⟨group, key, hs⟩ := hgiven g List.mem_cons_self
      obtain ⟨settings, hsection, -⟩ := hs.section
      obtain ⟨own, -, hlookup⟩ := h.sections hsection
      simp only [Bool.false_eq_true, if_false, Bool.not_false, if_true]
      -- the section stands in the settings themselves, so no other place changes with it
      rw [hs.keysOf_eq, Document.insert_of_written _ rfl hlookup, writeAll_cons, hs.keysOf_eq]
      exact ih hgiven.tail (h.write hs g.2)

/-! ## Layers -/

section

variable (environment : Environment) (given : List (String × Value))

/-- Over a mapping the layers are written one after the other. -/
theorem layer_map {file : Document} {upper : List (Scalar × Value)}
    (h : file.value = .map upper) : layer file environment given = (do
      let entries ← (applyEnvironment environment (overlayEntries defaults upper)).mapError
        .badNumber
      return applyGiven given { file with value := .map entries }) := by
  rw [layer, h]
  rfl

/-- Nothing is laid over what is no mapping. -/
theorem layer_of_not_map {file : Document} (h : ∀ entries, file.value ≠ .map entries) :
    ∃ m, layer file environment given = .error (.mismatch m) := by
  rw [layer]
  cases hv : file.value with
  | map entries => exact absurd hv (h entries)
  | _ => exact ⟨_, rfl⟩

variable {d : Document}

theorem layered_of_none (h : d.settings? = none) :
    ∃ m, layered d environment given = .error (.mismatch m) := by
  rcases d.settingsOf_cases with ⟨entries, hsome, -⟩ | ⟨-, ⟨m, hm⟩ | ⟨file, hfile, hvalue⟩⟩
  · cases h.symm.trans hsome
  · exact ⟨m, by rw [layered, hm]; rfl⟩
  · obtain ⟨m, hm⟩ := layer_of_not_map environment given hvalue
    refine ⟨m, ?_⟩
    rw [layered, hfile]
    show (layer file environment given >>= _) = _
    rw [hm]
    rfl

/-- Over a mapping the layers fail for a number that is none, and for nothing else; what they
    make is a mapping. -/
theorem layered_of_some {entries : List (Scalar × Value)} (h : d.settings? = some entries) :
    (∃ n, layered d environment given = .error (.badNumber n)) ∨
    ∃ merged, layered d environment given = .ok (.map merged) := by
  rw [layered, Document.settingsOf_eq h]
  show (∃ n, (layer { d with value := .map (d.written entries) } environment given >>= _) = _) ∨
    ∃ merged, (layer { d with value := .map (d.written entries) } environment given >>= _) = _
  rw [layer_map environment given rfl]
  cases applyEnvironment environment (overlayEntries defaults (d.written entries)) with
  | error n => exact Or.inl ⟨n, rfl⟩
  | ok written =>
    have hvalue : ({ d with value := .map written } : Document).value = .map written := rfl
    obtain ⟨merged, hmerged⟩ := value_applyGiven given hvalue
    exact Or.inr ⟨_, congrArg Except.ok (Document.resolve_of_map _ hmerged)⟩

end

end Flowmeter.Config

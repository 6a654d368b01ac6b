import Flowmeter.Proofs.Flow.Pairs
import Flowmeter.Proofs.Text.Spacing

/-!
# What the meaning of a line rests on

A line describes nothing just if its first pair of an original address is missing or empty. For
the rest its meaning rests on its first token, its third, and the first two pairs of each key,
counters as numbers. No other token counts for anything, nor does it matter how the pairs of two
keys stand to each other.

Both readers of a line take the first two values of a key, one for each direction, as a list with an
index. So agreement asks for the first two occurrences, and no lemma has to look at the third. Texts
must be the same; of counters it is enough that they are the same number, so zeros in front make no
difference.
-/

set_option autoImplicit false

namespace Flowmeter.Line

open Flowmeter.Text Flowmeter.Decimal

variable {line line' : Line}

/-! ## Lines that describe nothing

Of the three tests of the reader the first is lost: a line of words begins with one, or there is no
line. -/

/-- A value that is missing is read as an empty one. -/
theorem text_isEmpty_iff {f : Field} : (line.text f 0).isEmpty = true ↔
    line.occurrences f = [] ∨ (line.occurrences f).head? = some [] := by
  rw [text, values_eq_occurrences, String.isEmpty_iff]
  cases hoccurrences : line.occurrences f with
  | nil => exact ⟨fun _ => Or.inl rfl, fun _ => rfl⟩
  | cons value rest => simp

theorem flow?_eq_none_iff (hwords : ∀ token ∈ line, token ≠ []) : line.flow? = none ↔
    line = [] ∨
    (line.occurrences .source = [] ∨ (line.occurrences .source).head? = some []) ∨
    (line.occurrences .destination = [] ∨ (line.occurrences .destination).head? = some []) := by
  cases line with
  | nil => exact ⟨fun _ => Or.inl rfl, fun _ => rfl⟩
  | cons network rest =>
    have hnetwork : ((network :: rest).headD []).isEmpty = false :=
      List.isEmpty_eq_false_iff.mpr (hwords network List.mem_cons_self)
    rw [flow?_eq, hnetwork, ← text_isEmpty_iff, ← text_isEmpty_iff]
    simp [or_iff_not_imp_left]

/-! ## Lines that mean the same

Two lines may have any number of tokens, in any order but that of the pairs of one key. They are
compared by what is asked of them: five equations for the parts of a flow. -/

/-- Two lines agree in their first tokens, in their third tokens or in having none, and in the
    first two pairs of each key. -/
structure SameSense (tokens tokens' : Line) : Prop where
  first : tokens[0]? = tokens'[0]?
  third : tokens[2]? = tokens'[2]?
  texts : ∀ f : Field, f.isCounter = false →
    (tokens.occurrences f).take 2 = (tokens'.occurrences f).take 2
  counters : ∀ f : Field, f.isCounter = true →
    ((tokens.occurrences f).take 2).map counterValue =
      ((tokens'.occurrences f).take 2).map counterValue

instance (tokens tokens' : Line) : Decidable (SameSense tokens tokens') :=
  decidable_of_iff (tokens[0]? = tokens'[0]? ∧ tokens[2]? = tokens'[2]? ∧ ∀ f ∈ Field.all,
      if f.isCounter then ((tokens.occurrences f).take 2).map counterValue =
        ((tokens'.occurrences f).take 2).map counterValue
      else (tokens.occurrences f).take 2 = (tokens'.occurrences f).take 2) <| by
    constructor
    · rintro ⟨hfirst, hthird, hfields⟩
      refine ⟨hfirst, hthird, fun f hf => ?_, fun f hf => ?_⟩
      · have hfield := hfields f f.mem_all
        rwa [hf] at hfield
      · have hfield := hfields f f.mem_all
        rwa [if_pos hf] at hfield
    · intro h
      refine ⟨h.first, h.third, fun f _ => ?_⟩
      split
      case isTrue hf => exact h.counters f hf
      case isFalse hf => exact h.texts f (Bool.eq_false_iff.mpr hf)

namespace SameSense

/-- Either direction of a text. -/
theorem text_eq (h : SameSense line line') {f : Field} (hf : f.isCounter = false)
    {direction : Nat} (hdirection : direction < 2) :
    line.text f direction = line'.text f direction := by
  rw [text, text, values_eq_occurrences, values_eq_occurrences,
    ← List.getElem?_take_of_lt hdirection, h.texts f hf, List.getElem?_take_of_lt hdirection]

/-- Either direction of a counter, as the number it is read as. -/
theorem count_eq (h : SameSense line line') {f : Field} (hf : f.isCounter = true)
    {direction : Nat} (hdirection : direction < 2) :
    line.count f direction = line'.count f direction := by
  rw [count, count, values_eq_occurrences, values_eq_occurrences,
    ← List.getElem?_take_of_lt hdirection, ← List.getElem?_map, h.counters f hf,
    List.getElem?_map, List.getElem?_take_of_lt hdirection]

theorem endpoints_eq (h : SameSense line line') {direction : Nat} (hdirection : direction < 2) :
    line.endpoints direction = line'.endpoints direction := by
  rw [endpoints, endpoints, h.text_eq rfl hdirection, h.text_eq rfl hdirection,
    h.text_eq rfl hdirection, h.text_eq rfl hdirection]

theorem traffic_eq (h : SameSense line line') {direction : Nat} (hdirection : direction < 2) :
    line.traffic direction = line'.traffic direction := by
  rw [traffic, traffic, h.count_eq rfl hdirection, h.count_eq rfl hdirection]

theorem flow?_eq (h : SameSense line line') : line.flow? = line'.flow? := by
  have hfirst : line.headD [] = line'.headD [] := by
    rw [headD_eq, headD_eq, h.first]
  have hthird : (line.drop 2).headD [] = (line'.drop 2).headD [] := by
    rw [headD_drop_eq, headD_drop_eq, h.third]
  have hdescribed : line.described = line'.described := by
    rw [described, described, hfirst, hthird, h.endpoints_eq Nat.zero_lt_two,
      h.endpoints_eq Nat.one_lt_two, h.traffic_eq Nat.zero_lt_two, h.traffic_eq Nat.one_lt_two]
  rw [Line.flow?_eq, Line.flow?_eq, hfirst, hdescribed, h.text_eq rfl Nat.zero_lt_two,
    h.text_eq rfl Nat.zero_lt_two]

end SameSense

/-- **The first two pairs of a key decide.** A text is read just if its counters have no more
    than 4300 digits. Then it describes nothing just if it has no words, or lacks an original
    address: no pair of the key, or an empty value in its first. Any two such texts that agree
    in their first and third words and in the first two pairs of each key are read alike. -/
theorem first_two_pairs_decide :
    (∀ cs : List Char, (ofText cs).Readable ↔ ∃ flow?, (ofText cs).read = .ok flow?) ∧
    (∀ cs : List Char, (ofText cs).Readable →
      ((ofText cs).read = .ok none ↔ ofText cs = [] ∨
        ((ofText cs).occurrences .source = [] ∨
          ((ofText cs).occurrences .source).head? = some []) ∨
        ((ofText cs).occurrences .destination = [] ∨
          ((ofText cs).occurrences .destination).head? = some []))) ∧
    (∀ cs cs' : List Char, (ofText cs).Readable → (ofText cs').Readable →
      SameSense (ofText cs) (ofText cs') → (ofText cs).read = (ofText cs').read) := by
  have hread : ∀ {line : Line}, line.Readable → line.read = .ok line.flow? := by
    intro line h
    rw [read_of_readable h, accepted?_of_readable h]
  refine ⟨fun cs => readable_iff_read, ?nothing, ?alike⟩
  case nothing =>
    intro cs hreadable
    rw [hread hreadable, Except.ok.injEq]
    exact flow?_eq_none_iff fun token htoken => (isWord_of_mem_words htoken).1
  case alike =>
    intro cs cs' hreadable hreadable' hsame
    rw [hread hreadable, hread hreadable', hsame.flow?_eq]

/-- Two texts of one connection: what is behind the third word comes in another order, with a
    counter written otherwise, with third pairs and with words that are no pairs. -/
theorem first_two_pairs_decide_reordered :
    let cs := "ipv4 2 tcp src=a dst=b= packets=10 src=b dst=a packets=0".toList
    let cs' := ("\u2003ipv4 ? tcp packets=010 dst=b= mark=1 packets=x dst=a\x1fsrc=a packets=7 " ++
      "src=b src=c dst= srcs=").toList
    ∃ flow : Flow, (ofText cs).read = .ok (some flow) ∧ (ofText cs').read = .ok (some flow) := by
  intro cs cs'
  have hcs : (ofText cs).Readable ∧ (ofText cs').Readable ∧
      SameSense (ofText cs) (ofText cs') ∧ (ofText cs).read ≠ .ok none := by
    decide +kernel
  obtain ⟨hreadable, hreadable', hsame, hsome⟩ := hcs
  obtain ⟨hread, -, halike⟩ := first_two_pairs_decide
  obtain ⟨flow?, hflow⟩ := (hread cs).mp hreadable
  have hother : (ofText cs').read = .ok flow? := by
    rw [← halike cs cs' hreadable hreadable' hsame]
    exact hflow
  cases flow? with
  | some flow => exact ⟨flow, hflow, hother⟩
  | none => exact absurd hflow hsome

end Flowmeter.Line

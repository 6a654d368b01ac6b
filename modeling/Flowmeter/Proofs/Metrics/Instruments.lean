import Flowmeter.Metrics.Instruments
import Flowmeter.Proofs.Table
import Mathlib.Algebra.GroupWithZero.Nat

/-!
# What the instruments count

The children of a labelled counter are looked at in two ways: one child alone, and all others
together. One more of a child moves one of the two and leaves the other.

Both are needed wherever cycles are counted. Those that ended one way are counted by the child of
that way, and that nothing else was counted is said of the others, however many children have come
to be. The sum over the others is taken over the entries and not over known names: a child is made
when it is first counted.
-/

set_option autoImplicit false

namespace Flowmeter

namespace Instruments

/-- The count of a child. -/
def countOf (children : Table String Nat) (child : String) : Nat :=
  children.getD child 0

/-- The counts of all children but one, added up. -/
def countBut (children : Table String Nat) (child : String) : Nat :=
  ((children.entries.filter (fun e => e.1 ≠ child)).map Prod.snd).sum

variable (children : Table String Nat)

@[simp] theorem countOf_bump_self (child : String) :
    countOf (bump children child) child = countOf children child + 1 :=
  Table.getD_put_self _ _ _ _

theorem countOf_bump_of_ne {child other : String} (h : other ≠ child) :
    countOf (bump children child) other = countOf children other :=
  Table.getD_put_of_ne _ h _ _

/-- Putting one more under a key adds one to the sum of those that are kept, if that key is
    kept. -/
theorem sum_filter_put (keep : String → Bool) (child : String) (entries : List (String × Nat)) :
    (((Association.put child ((entries.lookup child).getD 0 + 1) entries).filter
        (fun e => keep e.1)).map Prod.snd).sum =
      ((entries.filter (fun e => keep e.1)).map Prod.snd).sum +
        if keep child then 1 else 0 := by
  induction entries with
  | nil => cases hk : keep child <;> simp [Association.put, hk]
  | cons e rest ih =>
    obtain ⟨j, n⟩ := e
    -- the child is there and its number changes in place, or it is further on
    by_cases h : child = j
    · subst h
      cases hk : keep child
      · simp [Association.put, hk]
      · simp [Association.put, hk]
        omega
    · have hb : (child == j) = false := by simpa using h
      simp only [Association.put, List.lookup_cons, hb, Bool.false_eq_true, if_false,
        List.filter_cons]
      cases keep j
      · exact ih
      · simp only [if_true, List.map_cons, List.sum_cons, ih, Nat.add_assoc]

theorem countBut_bump (child other : String) :
    countBut (bump children child) other =
      countBut children other + if child ≠ other then 1 else 0 := by
  have h := sum_filter_put (fun k => k ≠ other) child children.entries
  simp only [decide_eq_true_eq] at h
  exact h

end Instruments

end Flowmeter

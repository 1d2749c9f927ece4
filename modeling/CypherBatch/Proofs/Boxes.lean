import CypherBatch.Proofs.Units

/-!
# Arguments in boxes

A box is a list of one item.  Arguments in a box are one level deeper, and one more
round of splicing takes them out of it, so any number of boxes around the arguments
of a call leaves the units of the call as they are.

There is one exception: arguments that look like a list of labels are an entity part
as soon as they are in a box, and their box is not taken away.
-/

namespace CypherBatch
namespace Units

open Value

/-- Arguments in so many boxes. -/
def boxes : Nat → List Value → List Value
  | 0, args => args
  | n + 1, args => [.list (boxes n args)]

@[simp] theorem boxes_zero (args : List Value) : boxes 0 args = args := by
  rfl

/-- The innermost box is a box like any other. -/
theorem boxes_succ (n : Nat) (args : List Value) :
    boxes (n + 1) args = boxes n [.list args] := by
  induction n with
  | zero =>
      rfl
  | succ n ih =>
      rw [boxes, ih, boxes]

/-- Each box is spliced away by one round. -/
theorem spliceTimes_boxes (n m : Nat) (args : List Value) :
    spliceTimes (n + m) (boxes n args) = spliceTimes m args := by
  induction n with
  | zero =>
      rw [Nat.zero_add, boxes_zero]
  | succ n ih =>
      rw [Nat.succ_add, spliceTimes, boxes, splice_singleton_list, ih]

section Boxed

variable {args : List Value}

/-- A box does not look like a list of labels, nor do boxes around what does not. -/
theorem isMultiLabel_boxes (h : isMultiLabel (.list args) = false) (n : Nat) :
    isMultiLabel (.list (boxes n args)) = false := by
  cases n with
  | zero =>
      exact h
  | succ n =>
      exact isMultiLabel_list_cons_list _ _

/-- Each box raises the rank by one. -/
theorem rank_boxes (h : isMultiLabel (.list args) = false) (n : Nat) :
    rank (.list (boxes n args)) = rank (.list args) + n := by
  induction n with
  | zero =>
      rfl
  | succ n ih =>
      rw [boxes, rank_boxed (isMultiLabel_boxes h n), ih]
      omega

/-- Arguments are spliced to a rank that they reach as if they were in no boxes. -/
theorem flattenTo_boxes
    (h : isMultiLabel (.list args) = false) {m : Int} (hm : m ≤ rank (.list args)) (n : Nat) :
    flattenTo m (boxes n args) = flattenTo m args := by
  have hrounds : ((rank (.list (boxes n args)) : Int) - m).toNat =
      n + ((rank (.list args) : Int) - m).toNat := by
    rw [rank_boxes h]
    omega
  rw [flattenTo, flattenFrom, hrounds, spliceTimes_boxes]
  rfl

end Boxed

/-- Boxes around the arguments of a call do not change its units.

The arguments must have at least the rank of a unit and must not look like a list of labels;
then they have units, and in any number of boxes they have the same.
-/
theorem resolve_boxes
    {unitRank : Int} {args : List Value} (hrank : unitRank ≤ rank (.list args))
    (h : isMultiLabel (.list args) = false) (n : Nat) :
    ∃ units, resolve unitRank args = .ok units ∧ resolve unitRank (boxes n args) = .ok units := by
  rcases hrank.lt_or_eq with hdeep | hunit
  · have hboxed : unitRank < rank (.list (boxes n args)) := by
      rw [rank_boxes h]
      omega
    refine ⟨_, resolve_of_rank_gt hdeep, ?_⟩
    rw [resolve_of_rank_gt hboxed, flattenTo_boxes h (by omega)]
  · refine ⟨[args], resolve_of_rank_eq hunit.symm, ?_⟩
    cases n with
    | zero =>
        exact resolve_of_rank_eq hunit.symm
    | succ n =>
        -- the unit itself is the content of the innermost box
        have hone : (rank (.list [.list args]) : Int) = unitRank + 1 := by
          rw [rank_boxed h, hunit]
          push_cast
          omega
        have hbox : flattenTo (unitRank + 1) [.list args] = [.list args] := by
          simp [flattenTo, flattenFrom, hone, spliceTimes]
        have hboxed : unitRank < rank (.list (boxes n [.list args])) := by
          rw [rank_boxes (isMultiLabel_list_cons_list _ _)]
          omega
        rw [boxes_succ, resolve_of_rank_gt hboxed,
          flattenTo_boxes (isMultiLabel_list_cons_list _ _) hone.ge, hbox]
        rfl

/-- Reads of edges, of which only the first is deep. -/
def raggedReads : List Value :=
  [.list [.list [.list [.map [("k", .null)]], .null], .str "next"], .map [], .list []]

def raggedUnits : List (List Value) :=
  [[.list [.map [("k", .null)]], .null], [.str "next"], [.map []]]

/-- Their units are the same in two boxes. -/
theorem ragged_reads_are_unboxed :
    resolve edgeRank raggedReads = .ok raggedUnits ∧
      resolve edgeRank (boxes 2 raggedReads) = .ok raggedUnits := by
  have hunits : resolve edgeRank raggedReads = .ok raggedUnits := by
    decide +kernel
  have hrank : edgeRank ≤ rank (.list raggedReads) := by
    decide +kernel
  obtain ⟨units, hown, hboxed⟩ := resolve_boxes hrank rfl 2
  obtain rfl := Except.ok.inj (hown.symm.trans hunits)
  exact ⟨hown, hboxed⟩

/-- A label and a property map keep their box, since together they look like two labels. -/
example :
    resolve nodeRank [.str "alpha", .map []] = .ok [[.str "alpha", .map []]] ∧
    resolve nodeRank (boxes 1 [.str "alpha", .map []]) =
      .ok [[.list [.str "alpha", .map []]]] := by
  decide +kernel

end Units
end CypherBatch

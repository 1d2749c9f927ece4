import CypherBatch.Rank
import Mathlib.Tactic

/-!
# How a call is split into units

The rank of the arguments alone decides how a call is read.  This module states
once what the reader does at each rank:

* at the rank of one unit, the arguments are that unit;
* one level deeper, each argument is a unit;
* two levels deeper, the arguments are spliced once and each item is a unit;
* below the rank of a unit, the call is refused.

The rank of a list is zero exactly when all its items are entity parts.  A list
is itself an entity part exactly when it looks like a list of labels, which only
its first item and its length decide.
-/

namespace CypherBatch
namespace Value

/-- A list is an entity part exactly when it looks like a list of labels. -/
@[simp] theorem isEntityPart_list
    (items : List Value) :
    isEntityPart (.list items) = isMultiLabel (.list items) := by
  rfl

/-- A list that begins with a list does not look like a list of labels. -/
@[simp] theorem isMultiLabel_list_cons_list
    (items rest : List Value) :
    isMultiLabel (.list (.list items :: rest)) = false := by
  cases rest <;> rfl

/-- A list of entity parts has rank zero. -/
theorem rank_list_of_parts
    {items : List Value}
    (h : items.all isEntityPart = true) :
    rank (.list items) = 0 := by
  cases items with
  | nil =>
      rfl
  | cons v rest =>
      have hparts : (isEntityPart v && rest.all isEntityPart) = true := h
      simp [rank, hparts]

/-- Any other list has the rank of its first item and one more. -/
theorem rank_list_cons_of_not_parts
    {v : Value} {rest : List Value}
    (h : (v :: rest).all isEntityPart = false) :
    rank (.list (v :: rest)) = 1 + rank v := by
  have hparts : (isEntityPart v && rest.all isEntityPart) = false := h
  simp [rank, hparts]

theorem rank_list_eq_zero_iff
    (items : List Value) :
    rank (.list items) = 0 ↔ items.all isEntityPart = true := by
  constructor
  · intro h
    cases items with
    | nil =>
        rfl
    | cons v rest =>
        by_contra hparts
        have hrank : rank (.list (v :: rest)) = 1 + rank v :=
          rank_list_cons_of_not_parts (Bool.eq_false_of_not_eq_true hparts)
        omega
  · exact rank_list_of_parts

/-- A list that is not all entity parts keeps its rank, whatever stands behind it. -/
theorem rank_append_of_pos {a : List Value} (h : 0 < rank (.list a)) (b : List Value) :
    rank (.list (a ++ b)) = rank (.list a) := by
  have hparts : a.all isEntityPart = false := by
    refine Bool.eq_false_of_not_eq_true fun hall => ?_
    rw [rank_list_of_parts hall] at h
    omega
  cases a with
  | nil =>
      cases hparts
  | cons v rest =>
      have hboth : (v :: (rest ++ b)).all isEntityPart = false := by
        rw [← List.cons_append, List.all_append, hparts, Bool.false_and]
      rw [List.cons_append, rank_list_cons_of_not_parts hboth, rank_list_cons_of_not_parts hparts]

/-- One more list around a list that is no list of labels raises the rank by one. -/
theorem rank_boxed
    {items : List Value}
    (h : isMultiLabel (.list items) = false) :
    rank (.list [.list items]) = 1 + rank (.list items) := by
  apply rank_list_cons_of_not_parts
  simp [h]

end Value

namespace Units

open Value

/-- Splicing lists of values gives back the values. -/
@[simp] theorem splice_singleton_list
    (items : List Value) :
    splice [.list items] = items := by
  simp [splice, spliced]

@[simp] theorem splice_map_list
    (units : List (List Value)) :
    splice (units.map Value.list) = units.flatten := by
  simp [splice, spliced, Function.comp_def, List.flatMap_def]

/-- Lists of values are read as they are. -/
@[simp] theorem map_spliced_map_list
    (units : List (List Value)) :
    (units.map Value.list).map spliced = units := by
  simp [spliced, Function.comp_def]

section Readings

variable {unitRank : Int} {args : List Value}

/-- A call is one unit exactly when its rank is that of a unit. -/
theorem convention_eq_unit_iff :
    convention unitRank args = .ok .unit ↔
      ((Value.list args).rank : Int) = unitRank := by
  constructor
  · intro h
    simp only [convention] at h
    split_ifs at h with hlt hrank hnext
    · exact hrank
    · simp at h
    · simp at h
  · intro h
    simp [convention, h]

/-- At the rank of a unit the arguments are the unit. -/
theorem resolve_of_rank_eq
    (h : ((Value.list args).rank : Int) = unitRank) :
    resolve unitRank args = .ok [args] := by
  simp [resolve, convention_eq_unit_iff.2 h]

/-- Above the rank of a unit the arguments are spliced until they are a list of units. -/
theorem resolve_of_rank_gt
    (h : unitRank < ((Value.list args).rank : Int)) :
    resolve unitRank args = .ok ((flattenTo (unitRank + 1) args).map spliced) := by
  have hge : ¬ ((Value.list args).rank : Int) < unitRank := by omega
  have hne : ¬ ((Value.list args).rank : Int) = unitRank := by omega
  by_cases hs : ((Value.list args).rank : Int) = unitRank + 1
  · simp [resolve, convention, hs]
  · simp [resolve, convention, hge, hne, hs]

/-- One level above the rank of a unit each argument is a unit. -/
theorem resolve_of_rank_succ
    (h : ((Value.list args).rank : Int) = unitRank + 1) :
    resolve unitRank args = .ok (args.map spliced) := by
  rw [resolve_of_rank_gt (by omega)]
  simp [flattenTo, flattenFrom, h, spliceTimes]

/-- Two levels above the rank of a unit each item of an argument is a unit. -/
theorem resolve_of_rank_add_two
    (h : ((Value.list args).rank : Int) = unitRank + 2) :
    resolve unitRank args = .ok ((splice args).map spliced) := by
  rw [resolve_of_rank_gt (by omega)]
  have htimes : (((Value.list args).rank : Int) - (unitRank + 1)).toNat = 1 := by omega
  simp [flattenTo, flattenFrom, htimes, spliceTimes]

/-- Three levels above the rank of a unit each item of the items of an argument is a unit. -/
theorem resolve_of_rank_add_three
    (h : ((Value.list args).rank : Int) = unitRank + 3) :
    resolve unitRank args = .ok ((splice (splice args)).map spliced) := by
  rw [resolve_of_rank_gt (by omega)]
  have htimes : (((Value.list args).rank : Int) - (unitRank + 1)).toNat = 2 := by omega
  simp [flattenTo, flattenFrom, htimes, spliceTimes]

/-- Below the rank of a unit the call is refused. -/
theorem resolve_of_rank_lt
    (h : ((Value.list args).rank : Int) < unitRank) :
    resolve unitRank args = .error (.shallow (Value.list args).rank unitRank) := by
  simp [resolve, convention, h]

end Readings

end Units
end CypherBatch

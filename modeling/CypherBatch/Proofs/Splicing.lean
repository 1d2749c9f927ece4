import CypherBatch.Proofs.Units

/-!
# What splicing keeps and what it lowers

Arguments that are deeper than a list of units are spliced in rounds.  How many rounds
there are is read off the first items alone, but every round splices all lists, however
deep or shallow they are.

A round moves no value out of its place: read from left to right, the values that are no
lists are the same before and after.  So the units of a call hold what its arguments
hold, in the same order.

A round lowers a rank of two or more by exactly one.  The list that stood first gives way
to its own items.  It was no list of entity parts, and a list that begins with it is none
either, so what follows it cannot change the rank.  Hence the rounds end at the rank that
is asked for.
-/

namespace CypherBatch

namespace Value

mutual

/-- The values that are no lists, from left to right, however deep they stand. -/
def contents : Value → List Value
  | .list items => contentsOfItems items
  | v => [v]

def contentsOfItems : List Value → List Value
  | [] => []
  | v :: rest => contents v ++ contentsOfItems rest

end

@[simp] theorem contents_list (items : List Value) :
    contents (.list items) = items.flatMap contents := by
  have hitems : contentsOfItems items = items.flatMap contents := by
    induction items with
    | nil =>
        rfl
    | cons v rest ih =>
        rw [contentsOfItems, ih, List.flatMap_cons]
  rw [contents, hitems]

/-- A value holds what it holds when it is read as a list of its own. -/
theorem flatMap_contents_spliced (v : Value) : v.spliced.flatMap contents = v.contents := by
  cases v with
  | list items =>
      rw [spliced, contents_list]
  | null | bool | int | float | str | map =>
      simp [spliced, contents]

end Value

namespace Units

open Value

section Contents

variable (values : List Value)

theorem flatMap_contents_splice : (splice values).flatMap contents = values.flatMap contents := by
  rw [splice, List.flatMap_assoc]
  simp only [flatMap_contents_spliced]

theorem flatMap_contents_spliceTimes (rounds : Nat) :
    (spliceTimes rounds values).flatMap contents = values.flatMap contents := by
  induction rounds generalizing values with
  | zero =>
      rfl
  | succ rounds ih =>
      rw [spliceTimes, ih, flatMap_contents_splice]

end Contents

/-- The units of a call hold the values of its arguments, none of them lost, repeated or moved.

The arguments have units as soon as they are as deep as one unit.
-/
theorem resolve_keeps_contents
    {unitRank : Int} {args : List Value} (h : unitRank ≤ rank (.list args)) :
    ∃ units, resolve unitRank args = .ok units ∧
      contents (.list (units.map .list)) = contents (.list args) := by
  rcases h.lt_or_eq with hdeep | hunit
  · refine ⟨_, resolve_of_rank_gt hdeep, ?_⟩
    simp only [contents_list, List.flatMap_map, flatMap_contents_spliced]
    exact flatMap_contents_spliceTimes args _
  · refine ⟨[args], resolve_of_rank_eq hunit.symm, ?_⟩
    simp

/-- A call whose first branch is the most shallow one. -/
def unevenCall : List Value :=
  [.list [.list [.map [], .null], .str "next"],
    .list [.list [.list [.str "alpha", .list [.int 1]]], .list []], .str "beta"]

def unevenUnits : List (List Value) :=
  [[.map []], [.null], [.str "next"], [.str "alpha", .list [.int 1]], [.str "beta"]]

/-- Two rounds settle the first branch, and what is deeper stays inside its unit. -/
theorem uneven_call_keeps_contents :
    nodeRank ≤ rank (.list unevenCall) ∧ resolve nodeRank unevenCall = .ok unevenUnits ∧
      contents (.list (unevenUnits.map .list)) = contents (.list unevenCall) := by
  have hrank : nodeRank ≤ rank (.list unevenCall) := by
    decide +kernel
  have hunits : resolve nodeRank unevenCall = .ok unevenUnits := by
    decide +kernel
  obtain ⟨units, hresolve, hcontents⟩ := resolve_keeps_contents hrank
  obtain rfl := Except.ok.inj (hresolve.symm.trans hunits)
  exact ⟨hrank, hunits, hcontents⟩

section Ranks

variable {values : List Value}

/-- A round of splicing lowers a rank of two or more by exactly one. -/
theorem rank_splice (h : 2 ≤ rank (.list values)) :
    rank (.list (splice values)) + 1 = rank (.list values) := by
  cases values with
  | nil =>
      simp [rank] at h
  | cons v rest =>
      have hparts : (v :: rest).all isEntityPart = false := by
        refine Bool.eq_false_of_not_eq_true fun hall => ?_
        rw [rank_list_of_parts hall] at h
        omega
      rw [rank_list_cons_of_not_parts hparts] at h ⊢
      -- the rank of the first item is above zero, so it is a list that settles the new rank alone
      cases v with
      | list items =>
          have hfirst : splice (.list items :: rest) = items ++ splice rest := by
            simp [splice, spliced]
          rw [hfirst, rank_append_of_pos (by omega), Nat.add_comm]
      | null | bool | int | float | str | map =>
          simp [rank] at h

/-- So many rounds lower the rank by as much, as long as it stays above zero. -/
theorem rank_spliceTimes {rounds : Nat} (h : rounds < rank (.list values)) :
    rank (.list (spliceTimes rounds values)) + rounds = rank (.list values) := by
  induction rounds generalizing values with
  | zero =>
      rfl
  | succ rounds ih =>
      have hround : rank (.list (splice values)) + 1 = rank (.list values) :=
        rank_splice (by omega)
      have hrest : rank (.list (spliceTimes rounds (splice values))) + rounds =
          rank (.list (splice values)) :=
        ih (by omega)
      rw [spliceTimes]
      omega

/-- Splicing ends at the rank that is asked for, however uneven the branches are. -/
theorem rank_flattenTo {n : Int} (hn : 1 ≤ n) (h : n ≤ rank (.list values)) :
    (rank (.list (flattenTo n values)) : Int) = n := by
  have hrounds : ((rank (.list values) : Int) - n).toNat < rank (.list values) := by
    omega
  have hreached := rank_spliceTimes hrounds
  rw [flattenTo, flattenFrom]
  omega

end Ranks

/-- One round takes the call from rank three to rank two. -/
theorem uneven_call_reaches_rank_two :
    ((1 : Int) ≤ 2 ∧ (2 : Int) ≤ rank (.list unevenCall)) ∧
      (rank (.list (flattenTo 2 unevenCall)) : Int) = 2 := by
  have hrank : (2 : Int) ≤ rank (.list unevenCall) := by
    decide +kernel
  exact ⟨⟨by decide, hrank⟩, rank_flattenTo (by decide) hrank⟩

/-- The rank zero cannot always be reached: null is no list and no entity part. -/
example : rank (.list (flattenTo 0 [.list [.null]])) = 1 := by
  decide +kernel

end Units
end CypherBatch

import CypherBatch.Proofs.Batches

/-!
# Batches one behind another

Arguments that are several units, one behind another, stay so with more of them
behind: the rank of the arguments is read off the first of them, and it is above
zero as soon as one of them is no entity part.  So the units of two such calls,
given in one call, are cut as they are in the two calls.

`compose_append` follows: the batch of both calls is the batch of the first and
the batch of the second.  It has the statements of the first before those of the
second, it notes the units that either leaves out, and it fails as the first of
the two that fails.
-/

namespace CypherBatch

open Outcome

namespace Units

variable {unitRank : Int} {a b : List Value}

theorem convention_eq_units_iff :
    convention unitRank a = .ok .units ↔ ((Value.list a).rank : Int) = unitRank + 1 := by
  constructor
  · intro h
    simp only [convention] at h
    split_ifs at h with hlt hrank hnext
    · simp at h
    · exact hnext
    · simp at h
  · intro h
    simp [convention, h]

/-- Arguments that are several units stay so with any arguments behind them. -/
theorem convention_append
    (hunit : 0 ≤ unitRank) (ha : convention unitRank a = .ok .units) (b : List Value) :
    convention unitRank (a ++ b) = .ok .units := by
  rw [convention_eq_units_iff] at ha ⊢
  rw [Value.rank_append_of_pos (by omega), ha]

/-- The units of such arguments are the arguments, one by one. -/
theorem resolve_of_convention_eq_units (h : convention unitRank a = .ok .units) :
    resolve unitRank a = .ok (a.map Value.spliced) :=
  resolve_of_rank_succ (convention_eq_units_iff.1 h)

end Units

namespace Batch

/-- How many units a batch leaves out. -/
def leftOut (batch : Batch) : Nat :=
  (batch.skipped?.map Skipped.count).getD 0

/-- Two batches as one batch of so many units. -/
def joined (renderer : Renderer) (total : Nat) (x y : Batch) : Batch where
  statements := x.statements ++ y.statements
  skipped? := noteSkipped renderer total (total - (x.leftOut + y.leftOut))

theorem leftOut_gathered (renderer : Renderer) (parts : List (Option (List Statement))) :
    (gathered renderer parts).leftOut = parts.length - (parts.filterMap id).length := by
  unfold gathered leftOut noteSkipped
  split_ifs with h
  · rfl
  · simp only [Option.map_none, Option.getD_none]
    omega

/-- What the units of two calls give is gathered at once or call by call. -/
theorem gathered_append (renderer : Renderer) (parts more : List (Option (List Statement))) :
    gathered renderer (parts ++ more) =
      joined renderer (parts.length + more.length) (gathered renderer parts)
        (gathered renderer more) := by
  have hparts : (parts.filterMap id).length ≤ parts.length := List.length_filterMap_le id parts
  have hmore : (more.filterMap id).length ≤ more.length := List.length_filterMap_le id more
  have hcount : parts.length + more.length -
      (parts.length - (parts.filterMap id).length + (more.length - (more.filterMap id).length)) =
      (parts.filterMap id).length + (more.filterMap id).length := by
    omega
  rw [joined, leftOut_gathered, leftOut_gathered, hcount]
  simp [gathered]

end Batch

namespace Operation

theorem unitRank_nonneg (op : Operation) : 0 ≤ op.unitRank := by
  cases op <;> decide

/-- Units given behind other units are gathered behind them. -/
theorem mapM_part_append (op : Operation) (units more : List (List Value)) :
    ((units ++ more).mapM op.part).map (Batch.gathered op.renderer) =
      ((units.mapM op.part).map (Batch.gathered op.renderer)).bind fun x =>
        ((more.mapM op.part).map (Batch.gathered op.renderer)).map
          (Batch.joined op.renderer (units.length + more.length) x) := by
  rw [mapM_append]
  cases hunits : units.mapM op.part with
  | error e =>
      rfl
  | ok parts =>
      cases hmore : more.mapM op.part with
      | error e =>
          rfl
      | ok parts' =>
          simp only [ok_bind, ok_map, Batch.gathered_append, length_of_mapM hunits,
            length_of_mapM hmore]

/--
Several units behind several others compose the batch of those and then their own,
with the statements of those in front; the first of the two that fails is how both
fail.  Each unit gives what it gives on its own.
-/
theorem compose_append
    {op : Operation} {a b : List Value}
    (ha : Units.convention op.unitRank a = .ok .units)
    (hb : Units.convention op.unitRank b = .ok .units) :
    (op.compose (a ++ b) =
        (op.compose a).bind fun x =>
          (op.compose b).map (Batch.joined op.renderer (a.length + b.length) x)) ∧
      (op.statements (a ++ b) =
        (op.statements a).bind fun ss => (op.statements b).map (ss ++ ·)) ∧
      op.statements (a ++ b) = op.ofUnits ((a ++ b).map Value.spliced) := by
  have hresolve : Units.resolve op.unitRank (a ++ b) = .ok ((a ++ b).map Value.spliced) :=
    Units.resolve_of_convention_eq_units (Units.convention_append op.unitRank_nonneg ha b)
  have hcompose : op.compose (a ++ b) =
      (op.compose a).bind fun x =>
        (op.compose b).map (Batch.joined op.renderer (a.length + b.length) x) := by
    have happend := op.mapM_part_append (a.map Value.spliced) (b.map Value.spliced)
    rw [List.length_map, List.length_map] at happend
    rw [compose_eq, compose_eq, compose_eq, hresolve, Units.resolve_of_convention_eq_units ha,
      Units.resolve_of_convention_eq_units hb, List.map_append]
    exact happend
  refine ⟨hcompose, ?_, op.statements_of_resolve hresolve⟩
  rw [statements, statements, statements, hcompose]
  cases op.compose a with
  | error e =>
      rfl
  | ok x =>
      cases op.compose b <;> rfl

/-- A read of edges of two types, and one of all edges from a node. -/
def nextOrAfter : List Value :=
  [.list [.list [.str "next", .str "after"], .list [.str "alpha"]],
    .list [.map [], .list [.str "beta"]]]

/-- A read of edges by a property. -/
def byKey : List Value :=
  [.list [.list [.map [("k", .int 1)]]]]

/-- Alternatives are written where their read stands, with another read behind it. -/
theorem alternatives_stay_in_front :
    Units.convention getEdge.unitRank nextOrAfter = .ok .units ∧
      Units.convention getEdge.unitRank byKey = .ok .units ∧
      getEdge.statements (nextOrAfter ++ byKey) =
        .ok [⟨"MATCH (a:alpha)-[e:next|after]->(b) RETURN e", []⟩,
          ⟨"MATCH (a:beta)-[e]->(b) RETURN e", []⟩,
          ⟨"MATCH (a)-[e {k: {propE}.k}]->(b) RETURN e",
            [("propE", .map [("k", .int 1)])]⟩] := by
  have ha : Units.convention getEdge.unitRank nextOrAfter = .ok .units := by
    decide +kernel
  have hb : Units.convention getEdge.unitRank byKey = .ok .units := by
    decide +kernel
  have hfront : getEdge.statements nextOrAfter =
      .ok [⟨"MATCH (a:alpha)-[e:next|after]->(b) RETURN e", []⟩,
        ⟨"MATCH (a:beta)-[e]->(b) RETURN e", []⟩] := by
    decide +kernel
  have hbehind : getEdge.statements byKey =
      .ok [⟨"MATCH (a)-[e {k: {propE}.k}]->(b) RETURN e",
        [("propE", .map [("k", .int 1)])]⟩] := by
    decide +kernel
  refine ⟨ha, hb, ?_⟩
  rw [(compose_append ha hb).2.1, hfront, hbehind]
  rfl

end Operation
end CypherBatch

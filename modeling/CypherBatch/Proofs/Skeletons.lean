import CypherBatch.Proofs.Remapping

/-!
# Skeletons

The skeleton of a value keeps everything but what is stored in its property maps:
under each key of a map there is null.  Arguments with the same skeletons differ in
property values only.

A skeleton is the value with its property maps changed, so the readers of arguments do not
tell it from the value: the units of a call have the skeletons that the skeletons of its
arguments are split into, and groups of one skeleton are read as entities of one skeleton
or refused.
-/

namespace CypherBatch

open Outcome

namespace PropertyMap

/-- The keys of a map, with nothing stored under them. -/
def skeleton (m : PropertyMap) : PropertyMap :=
  m.map fun field => (field.1, .null)

/-- Maps have one skeleton exactly when they have the same keys in the same order. -/
theorem skeleton_eq_iff {m m' : PropertyMap} :
    m.skeleton = m'.skeleton ↔ m.keys = m'.keys := by
  have hkeys (m : PropertyMap) : m.skeleton = m.keys.map fun key => (key, .null) := by
    simp [skeleton, keys]
  rw [hkeys, hkeys]
  refine (List.map_injective_iff.2 fun k l h => ?_).eq_iff
  exact congrArg Prod.fst h

end PropertyMap

namespace Value

mutual

/-- The value without what is stored in its property maps. -/
def skeleton : Value → Value
  | .list items => .list (skeletons items)
  | .map fields => .map (PropertyMap.skeleton fields)
  | v => v

def skeletons : List Value → List Value
  | [] => []
  | v :: rest => skeleton v :: skeletons rest

end

mutual

theorem skeleton_eq_remap : ∀ v : Value, v.skeleton = v.remap PropertyMap.skeleton
  | .list items => by
      rw [skeleton, remap, skeletons_eq_remapAll items]
  | .map fields => by
      rw [skeleton, remap]
  | .null | .bool _ | .int _ | .float _ | .str _ => by
      simp [skeleton, remap]

theorem skeletons_eq_remapAll :
    ∀ items : List Value, skeletons items = remapAll PropertyMap.skeleton items
  | [] => rfl
  | v :: rest => by
      rw [skeletons, remapAll, skeleton_eq_remap v, skeletons_eq_remapAll rest]

end

theorem skeleton_eq : skeleton = remap PropertyMap.skeleton :=
  funext skeleton_eq_remap

@[simp] theorem skeleton_list (items : List Value) :
    skeleton (.list items) = .list (items.map skeleton) := by
  rw [skeleton_eq, remap_list]

@[simp] theorem skeleton_map (fields : PropertyMap) :
    skeleton (.map fields) = .map fields.skeleton := by
  rw [skeleton_eq, remap_map]

@[simp] theorem skeleton_str (s : String) :
    skeleton (.str s) = .str s := by
  rw [skeleton_eq, remap_str]

end Value

/-- The units of skeletons are the skeletons of the units. -/
theorem Units.resolve_skeleton (unitRank : Int) (args : List Value) :
    resolve unitRank (args.map Value.skeleton) =
      (resolve unitRank args).map (List.map (List.map Value.skeleton)) := by
  rw [Value.skeleton_eq, resolve_remap]

/-- The binding without the values of its properties. -/
def Binding.skeleton : Binding → Binding
  | .props fields => .props fields.skeleton
  | b => b

/-- The entity without the values of its properties. -/
def Entity.skeleton (x : Entity) : Entity :=
  ⟨x.binding.skeleton, x.labels⟩

theorem Entity.skeleton_eq_remap (x : Entity) : x.skeleton = x.remap PropertyMap.skeleton := by
  obtain ⟨binding, labels⟩ := x
  cases binding <;> rfl

/-- Do two outcomes of reading agree: both refused, or entities of one skeleton? -/
abbrev SameReading : Except ShapeError Entity → Except ShapeError Entity → Prop :=
  Agree (fun _ _ => True) fun x y => x.skeleton = y.skeleton

/-- Groups of one skeleton are read alike. -/
theorem Entity.ofGroup_agree
    {group group' : Value} (h : group.skeleton = group'.skeleton) :
    SameReading (ofGroup group) (ofGroup group') := by
  rw [Value.skeleton_eq] at h
  simpa only [SameReading, skeleton_eq_remap] using ofGroup_agree_of_remap_eq _ h

theorem Pattern.nodeOfGroup_agree
    {place : NodePlace} {group group' : Value} (h : group.skeleton = group'.skeleton) :
    SameReading (nodeOfGroup place group) (nodeOfGroup place group') := by
  rw [Value.skeleton_eq] at h
  simpa only [SameReading, Entity.skeleton_eq_remap] using
    nodeOfGroup_agree_of_remap_eq _ h place

end CypherBatch

import CypherBatch.Proofs.ValueBlindness

/-!
# Outlines

The outline of a value keeps of each of its property maps the keys and whether the map is
legal.  So it says more than the skeleton, and just what composing depends on: arguments
with the same outlines are split into units with the same outlines, whose created entities
are legal alike, and they compose statements with the same skeletons.
-/

namespace CypherBatch

open Outcome

namespace PropertyMap

/-- The keys of a map, with its legality under each of them. -/
def outline (m : PropertyMap) : PropertyMap :=
  m.map fun field => (field.1, .bool (Value.isLegal (.map m)))

@[simp] theorem skeleton_outline (m : PropertyMap) : m.outline.skeleton = m.skeleton := by
  simp [outline, skeleton]

theorem outline_eq_of_keys_eq
    {m m' : PropertyMap} (hkeys : m.keys = m'.keys)
    (hlegal : Value.isLegal (.map m) = Value.isLegal (.map m')) :
    m.outline = m'.outline := by
  have houtline (m : PropertyMap) :
      m.outline = m.keys.map fun key => (key, .bool (Value.isLegal (.map m))) := by
    simp [outline, keys]
  rw [houtline, hkeys, hlegal, houtline]

/-- Maps of one outline are both legal or both not; the empty map is not. -/
theorem isLegal_of_outline_eq
    {m m' : PropertyMap} (h : m.outline = m'.outline) :
    Value.isLegal (.map m) = Value.isLegal (.map m') := by
  match m, m' with
  | [], [] =>
      rfl
  | [], _ :: _ | _ :: _, [] =>
      simp [outline] at h
  | _ :: _, _ :: _ =>
      simp only [outline, List.map_cons, List.cons.injEq, Prod.mk.injEq, Value.bool.injEq] at h
      exact h.1.2

end PropertyMap

namespace Value

mutual

/-- The value with nothing but the outlines of its property maps. -/
def outline : Value → Value
  | .list items => .list (outlines items)
  | .map fields => .map (PropertyMap.outline fields)
  | v => v

def outlines : List Value → List Value
  | [] => []
  | v :: rest => outline v :: outlines rest

end

mutual

theorem outline_eq_remap : ∀ v : Value, v.outline = v.remap PropertyMap.outline
  | .list items => by
      rw [outline, remap, outlines_eq_remapAll items]
  | .map fields => by
      rw [outline, remap]
  | .null | .bool _ | .int _ | .float _ | .str _ => by
      simp [outline, remap]

theorem outlines_eq_remapAll :
    ∀ items : List Value, outlines items = remapAll PropertyMap.outline items
  | [] => rfl
  | v :: rest => by
      rw [outlines, remapAll, outline_eq_remap v, outlines_eq_remapAll rest]

end

theorem outline_eq : outline = remap PropertyMap.outline :=
  funext outline_eq_remap

@[simp] theorem outline_list (items : List Value) :
    outline (.list items) = .list (items.map outline) := by
  rw [outline_eq, remap_list]

@[simp] theorem outline_map (fields : PropertyMap) :
    outline (.map fields) = .map fields.outline := by
  rw [outline_eq, remap_map]

/-- The outline of a value has its skeleton. -/
theorem skeleton_outline (v : Value) : v.outline.skeleton = v.skeleton := by
  have hmaps : PropertyMap.skeleton ∘ PropertyMap.outline = PropertyMap.skeleton :=
    funext PropertyMap.skeleton_outline
  rw [outline_eq, skeleton_eq, remap_remap, hmaps]

theorem map_skeleton_eq_of_map_outline_eq
    {vs ws : List Value} (h : vs.map outline = ws.map outline) :
    vs.map skeleton = ws.map skeleton := by
  have hskeleton (vs : List Value) : (vs.map outline).map skeleton = vs.map skeleton := by
    simp [Function.comp_def, skeleton_outline]
  rw [← hskeleton, h, hskeleton]

end Value

namespace Render

/-- Groups of one outline describe entities whose maps are both legal or both not. -/
theorem legal?_of_outline_eq
    {group group' : Value} (h : group.outline = group'.outline) :
    legal? group = legal? group' := by
  rw [Value.outline_eq] at h
  have hread := Entity.ofGroup_agree_of_remap_eq _ h
  generalize hr : Entity.ofGroup group = r at hread
  generalize hr' : Entity.ofGroup group' = r' at hread
  cases hread with
  | error _ =>
      rw [legal?, legal?, hr, hr']
      rfl
  | @ok x x' hsame =>
      have hprops : x.props?.map PropertyMap.outline = x'.props?.map PropertyMap.outline := by
        rw [← Entity.props?_remap, hsame, Entity.props?_remap]
      rw [legal?_of_ofGroup_eq_ok hr, legal?_of_ofGroup_eq_ok hr']
      cases hx : x.props? <;> cases hx' : x'.props? <;> simp [hx, hx'] at hprops
      · rfl
      · rw [Option.map_some, Option.map_some, PropertyMap.isLegal_of_outline_eq hprops]

theorem outline_nodeGroup (args : List Value) :
    (nodeGroup args).outline = nodeGroup (args.map Value.outline) := by
  match args with
  | [] | [_] | _ :: _ :: _ =>
      simp [nodeGroup]

end Render

namespace Operation

theorem map_outline_createdGroup? (op : Operation) (unit : List Value) :
    (op.createdGroup? unit).map Value.outline = op.createdGroup? (unit.map Value.outline) := by
  cases op with
  | addNode =>
      simp [createdGroup?, Render.outline_nodeGroup]
  | addEdge =>
      cases unit <;> rfl
  | getNode | getEdge | get =>
      rfl

theorem createdGroup?_legal?_eq
    {op : Operation} {unit unit' : List Value}
    (h : unit.map Value.outline = unit'.map Value.outline) :
    (op.createdGroup? unit).bind Render.legal? = (op.createdGroup? unit').bind Render.legal? := by
  have hgroup : (op.createdGroup? unit).map Value.outline =
      (op.createdGroup? unit').map Value.outline := by
    rw [map_outline_createdGroup?, h, map_outline_createdGroup?]
  cases hg : op.createdGroup? unit <;> cases hg' : op.createdGroup? unit' <;>
    simp [hg, hg'] at hgroup
  · rfl
  · exact Render.legal?_of_outline_eq hgroup

theorem legalityOf_eq_of_outline_eq
    {op : Operation} {units units' : List (List Value)}
    (h : units.map (List.map Value.outline) = units'.map (List.map Value.outline)) :
    op.legalityOf units = op.legalityOf units' := by
  rw [← List.forall₂_eq_eq_eq, List.forall₂_map_left_iff, List.forall₂_map_right_iff] at h
  rw [legalityOf, legalityOf, ← List.forall₂_eq_eq_eq, List.forall₂_map_left_iff,
    List.forall₂_map_right_iff]
  exact h.imp fun unit unit' hunit => createdGroup?_legal?_eq hunit

/-- The outlines of arguments tell which of the maps that a call creates are legal. -/
theorem legality_eq_of_outline_eq
    {op : Operation} {args args' : List Value}
    (h : args.map Value.outline = args'.map Value.outline) :
    op.legality args = op.legality args' := by
  have hresolve : (Units.resolve op.unitRank args).map (List.map (List.map Value.outline)) =
      (Units.resolve op.unitRank args').map (List.map (List.map Value.outline)) := by
    rw [Value.outline_eq] at h ⊢
    rw [← Units.resolve_remap, h, Units.resolve_remap]
  unfold legality
  cases hunits : Units.resolve op.unitRank args <;>
    cases hunits' : Units.resolve op.unitRank args' <;> simp [hunits, hunits'] at hresolve
  · rfl
  · exact legalityOf_eq_of_outline_eq hresolve

/-- Calls with arguments of the same outlines compose statements of the same skeletons. -/
theorem statements_agree_of_outline_eq
    {op : Operation} {args args' : List Value}
    (h : args.map Value.outline = args'.map Value.outline) :
    SameComposition (op.statements args) (op.statements args') :=
  statements_agree (Value.map_skeleton_eq_of_map_outline_eq h) (legality_eq_of_outline_eq h)

end Operation

end CypherBatch

import CypherBatch.Proofs.Batches
import CypherBatch.Proofs.PatternTexts
import CypherBatch.Proofs.Renderers
import CypherBatch.Proofs.Skeletons

/-!
# Statements do not show property values

A pattern is written from the skeleton of its entity.  So the skeleton of a statement,
its text and its parameters without their values, is the statement of the skeleton,
and calls whose arguments have the same skeletons fail alike or give statements of
the same skeletons.

Only the renderers that save an entity look at property values at all: to tell
whether its map is legal.  For them the calls have to agree in that, unit by unit.
-/

namespace CypherBatch

open Outcome

namespace ComposeError

/-- The kinds of errors of composition. -/
inductive Kind where
  | shape
  | label
  | groupCount
deriving DecidableEq, Repr

def kind : ComposeError → Kind
  | shape _ => .shape
  | label _ => .label
  | groupCount _ => .groupCount

/-- All errors of shape are of one kind. -/
theorem liftShape_agree
    {α : Type} {S : α → α → Prop} {r r' : Except ShapeError α}
    (h : Agree (fun _ _ => True) S r r') :
    Agree (fun e f => e.kind = f.kind) S (liftShape r) (liftShape r') := by
  cases h with
  | ok h =>
      exact .ok h
  | error _ =>
      exact .error rfl

end ComposeError

/-- The statement without the values of its parameters. -/
def Statement.skeleton (s : Statement) : Statement :=
  ⟨s.query, s.params.map fun param => (param.1, param.2.skeleton)⟩

theorem Statement.keys_params_of_skeleton_eq
    {s s' : Statement} (h : s.skeleton = s'.skeleton) :
    s.params.keys = s'.params.keys := by
  have hkeys (s : Statement) : s.skeleton.params.keys = s.params.keys := by
    simp [Statement.skeleton, PropertyMap.keys]
  rw [← hkeys, h, hkeys]

namespace Value

theorem skeleton_eq_null_iff {v : Value} : v.skeleton = .null ↔ v = .null := by
  cases v <;> simp [skeleton]

@[simp] theorem isText_skeleton (v : Value) : v.skeleton.isText = v.isText := by
  cases v <;> simp [isText, text?, skeleton]

end Value

namespace Entity

@[simp] theorem labels_skeleton (x : Entity) : x.skeleton.labels = x.labels := by
  rfl

@[simp] theorem props?_skeleton (x : Entity) :
    x.skeleton.props? = x.props?.map PropertyMap.skeleton := by
  obtain ⟨binding, labels⟩ := x
  cases binding <;> rfl

@[simp] theorem boundProps?_skeleton (x : Entity) :
    x.skeleton.boundProps? = x.boundProps?.map PropertyMap.skeleton := by
  obtain ⟨binding, labels⟩ := x
  match binding with
  | .free | .distance _ | .props [] | .props (_ :: _) =>
      rfl

@[simp] theorem distance?_skeleton (x : Entity) :
    x.skeleton.distance? = x.distance? := by
  obtain ⟨binding, labels⟩ := x
  cases binding <;> rfl

end Entity

namespace PropertyMap

@[simp] theorem keys_skeleton (m : PropertyMap) : m.skeleton.keys = m.keys := by
  simp [skeleton, keys]

end PropertyMap

namespace Pattern

/-- A pattern is written from the skeleton of its entity. -/
@[simp] theorem body_skeleton (facet : Facet) (x : Entity) :
    body facet x.skeleton = body facet x := by
  have hkeys : boundKeys x.skeleton = boundKeys x := by
    rw [boundKeys_eq, boundKeys_eq, Entity.boundProps?_skeleton]
    cases x.boundProps? <;> simp
  simp only [body, hkeys, distanceText, Entity.distance?_skeleton, Entity.labels_skeleton]

@[simp] theorem node_skeleton (facet : Facet) (x : Entity) :
    node facet x.skeleton = node facet x := by
  rw [node, node, body_skeleton]

@[simp] theorem edge_skeleton (x : Entity) :
    edge x.skeleton = edge x := by
  rw [edge, edge, body_skeleton]

theorem map_skeleton_params (facets : List (Facet × Entity)) :
    (params facets).map (fun param => (param.1, param.2.skeleton)) =
      params (facets.map fun facet => (facet.1, facet.2.skeleton)) := by
  induction facets with
  | nil =>
      rfl
  | cons facet rest ih =>
      obtain ⟨facet, x⟩ := facet
      simp only [params, List.map_cons, List.filterMap_cons, Entity.boundProps?_skeleton] at ih ⊢
      cases x.boundProps? with
      | none =>
          exact ih
      | some fields =>
          simp [ih]

end Pattern

namespace Render

theorem skeleton_foundNode (x : Entity) :
    (foundNode x).skeleton = foundNode x.skeleton := by
  simp [foundNode, Statement.skeleton, Pattern.map_skeleton_params]

theorem skeleton_foundEdge (a e b : Entity) :
    (foundEdge a e b).skeleton = foundEdge a.skeleton e.skeleton b.skeleton := by
  simp [foundEdge, Statement.skeleton, Pattern.map_skeleton_params]

theorem skeleton_foundFirst (clauses : ClauseSet) (a : Entity) :
    (foundFirst clauses a).skeleton = foundFirst clauses a.skeleton := by
  simp [foundFirst, Statement.skeleton, Pattern.map_skeleton_params]

theorem skeleton_foundGraph (clauses : ClauseSet) (a e b : Entity) :
    (foundGraph clauses a e b).skeleton =
      foundGraph clauses a.skeleton e.skeleton b.skeleton := by
  have hbody : graphBody clauses.path e.skeleton b.skeleton = graphBody clauses.path e b := by
    cases hpath : clauses.path <;> simp [graphBody]
  simp [foundGraph, Statement.skeleton, Pattern.map_skeleton_params, hbody]

theorem skeleton_savedNode (labels : List String) (fields : PropertyMap) :
    (savedNode labels fields).skeleton = savedNode labels fields.skeleton := by
  simp [savedNode, Statement.skeleton]

theorem skeleton_savedEdge (labels : List String) (fields : PropertyMap) (a b : Entity) :
    (savedEdge labels fields a b).skeleton =
      savedEdge labels fields.skeleton a.skeleton b.skeleton := by
  simp [savedEdge, Statement.skeleton, Pattern.map_skeleton_params]

theorem skeleton_pathEdge (e : Entity) :
    (pathEdge e).skeleton = pathEdge e.skeleton := by
  obtain ⟨binding, labels⟩ := e
  cases binding <;> rfl

theorem skeleton_nodeGroup (args : List Value) :
    (nodeGroup args).skeleton = nodeGroup (args.map Value.skeleton) := by
  match args with
  | [_] =>
      rfl
  | [] | _ :: _ :: _ =>
      simp [nodeGroup]

theorem skeleton_nodeGroup_eq
    {args args' : List Value} (h : args.map Value.skeleton = args'.map Value.skeleton) :
    (nodeGroup args).skeleton = (nodeGroup args').skeleton := by
  rw [skeleton_nodeGroup, h, skeleton_nodeGroup]

/-- Do two outcomes of writing agree: errors of one kind, or statements of one skeleton? -/
abbrev SameWriting : Except ComposeError Statement → Except ComposeError Statement → Prop :=
  Agree (fun e f => e.kind = f.kind) fun s s' => s.skeleton = s'.skeleton

section Reads

open ComposeError

variable {args args' : List Value}

theorem findNode_agree (h : args.map Value.skeleton = args'.map Value.skeleton) :
    SameWriting (findNode args) (findNode args') := by
  rw [findNode_eq, findNode_eq]
  refine (liftShape_agree (Pattern.nodeOfGroup_agree (skeleton_nodeGroup_eq h))).map fun x x' hx => ?_
  rw [skeleton_foundNode, hx, skeleton_foundNode]

theorem findEdgeOfGroups_agree
    {edge source target edge' source' target' : Value} (hedge : edge.skeleton = edge'.skeleton)
    (hsource : source.skeleton = source'.skeleton) (htarget : target.skeleton = target'.skeleton) :
    SameWriting (findEdgeOfGroups edge source target)
      (findEdgeOfGroups edge' source' target') := by
  rw [findEdgeOfGroups_eq, findEdgeOfGroups_eq]
  refine (liftShape_agree (Pattern.nodeOfGroup_agree hsource)).bind fun a a' ha => ?_
  refine (liftShape_agree (Entity.ofGroup_agree hedge)).bind fun e e' he => ?_
  refine (liftShape_agree (Pattern.nodeOfGroup_agree htarget)).map fun b b' hb => ?_
  rw [skeleton_foundEdge, ha, he, hb, skeleton_foundEdge]

theorem skeleton_getD (groups : List Value) (n : Nat) :
    (groups.getD n .null).skeleton = (groups.map Value.skeleton).getD n .null := by
  simp only [List.getD_eq_getElem?_getD, List.getElem?_map]
  cases groups[n]? <;> rfl

theorem findEdge_agree (h : args.map Value.skeleton = args'.map Value.skeleton) :
    SameWriting (findEdge args) (findEdge args') := by
  have hlength : args.length = args'.length := by
    simpa using congrArg List.length h
  have hgroup (n : Nat) : (args.getD n .null).skeleton = (args'.getD n .null).skeleton := by
    rw [skeleton_getD, h, skeleton_getD]
  by_cases hthree : args.length ≤ 3
  · rw [findEdge_of_length_le hthree, findEdge_of_length_le (hlength ▸ hthree)]
    exact findEdgeOfGroups_agree (hgroup 0) (hgroup 1) (hgroup 2)
  · have hmany : 3 < args.length := Nat.lt_of_not_le hthree
    rw [findEdge_of_length_gt hmany, findEdge_of_length_gt (hlength ▸ hmany)]
    exact .error rfl

theorem findGraphOfGroups_agree
    {clauses : ClauseSet} {first edge second first' edge' second' : Value}
    (hfirst : first.skeleton = first'.skeleton) (hedge : edge.skeleton = edge'.skeleton)
    (hsecond : second.skeleton = second'.skeleton) :
    SameWriting (findGraphOfGroups clauses first edge second)
      (findGraphOfGroups clauses first' edge' second') := by
  have hnull : edge = .null ↔ edge' = .null := by
    rw [← Value.skeleton_eq_null_iff, hedge, Value.skeleton_eq_null_iff]
  rw [findGraphOfGroups_eq, findGraphOfGroups_eq]
  refine (liftShape_agree (Pattern.nodeOfGroup_agree hfirst)).bind fun a a' ha => ?_
  by_cases hedge' : edge' = .null
  · rw [if_pos (hnull.2 hedge'), if_pos hedge']
    cases clauses.path with
    | some path =>
        exact .error rfl
    | none =>
        exact .ok (by rw [skeleton_foundFirst, ha, skeleton_foundFirst])
  · rw [if_neg (mt hnull.1 hedge'), if_neg hedge']
    refine (liftShape_agree (Entity.ofGroup_agree hedge)).bind fun e e' he => ?_
    refine (liftShape_agree (Pattern.nodeOfGroup_agree hsecond)).map fun b b' hb => ?_
    rw [skeleton_foundGraph, skeleton_foundGraph, ha, hb]
    split
    · rw [skeleton_pathEdge, skeleton_pathEdge, he]
    · rw [he]

/-- Filters that look at skeletons only leave arguments of the same skeletons. -/
theorem map_skeleton_filter
    {p : Value → Bool} (hp : ∀ v, p v.skeleton = p v)
    (h : args.map Value.skeleton = args'.map Value.skeleton) :
    (args.filter p).map Value.skeleton = (args'.filter p).map Value.skeleton := by
  have hfilter (args : List Value) :
      (args.filter p).map Value.skeleton = (args.map Value.skeleton).filter p := by
    rw [List.filter_map]
    congr 2
    funext v
    exact (hp v).symm
  rw [hfilter, h, hfilter]

theorem isGroupOrClause_skeleton (v : Value) :
    isGroupOrClause v.skeleton = isGroupOrClause v := by
  cases v <;> simp [isGroupOrClause, Value.skeleton]

/-- Clauses have no property values. -/
theorem map_skeleton_clausesOf (args : List Value) :
    (clausesOf args).map Value.skeleton = clausesOf args := by
  refine (List.map_congr_left fun v hv => ?_).trans (List.map_id _)
  have htext : v.isText = true := (List.mem_filter.1 hv).2
  cases v with
  | str s =>
      exact Value.skeleton_str s
  | null | bool | int | float | list | map =>
      cases htext

theorem findGraph_agree (h : args.map Value.skeleton = args'.map Value.skeleton) :
    SameWriting (findGraph args) (findGraph args') := by
  have hbad := map_skeleton_filter (p := fun arg => !isGroupOrClause arg)
    (fun v => by rw [isGroupOrClause_skeleton]) h
  have hgroups : (groupsOf args).map Value.skeleton = (groupsOf args').map Value.skeleton :=
    map_skeleton_filter (fun v => by rw [Value.isText_skeleton]) h
  have hclauses : clausesOf args = clausesOf args' := by
    rw [← map_skeleton_clausesOf args, ← map_skeleton_clausesOf args']
    exact map_skeleton_filter Value.isText_skeleton h
  have hgroup (n : Nat) : ((groupsOf args).getD n .null).skeleton =
      ((groupsOf args').getD n .null).skeleton := by
    rw [skeleton_getD, hgroups, skeleton_getD]
  have hempty : (args.filter fun arg => !isGroupOrClause arg).isEmpty =
      (args'.filter fun arg => !isGroupOrClause arg).isEmpty := by
    simpa using congrArg List.isEmpty hbad
  have hcount : (groupsOf args).length = (groupsOf args').length := by
    simpa using congrArg List.length hgroups
  rw [findGraph_eq, findGraph_eq, hempty, hcount, hclauses]
  by_cases hbad : (args'.filter fun arg => !isGroupOrClause arg).isEmpty = true
  · by_cases hmany : 3 < (groupsOf args').length
    · simp only [hbad, hmany, if_true]
      exact .error rfl
    · simp only [hbad, hmany, if_true, if_false]
      cases liftShape (ClauseSet.ofFragments (clausesOf args')) with
      | error e =>
          exact .error rfl
      | ok clauses =>
          exact findGraphOfGroups_agree (hgroup 0) (hgroup 1) (hgroup 2)
  · simp only [hbad]
    exact .error rfl

end Reads

/-- Is the property map of the entity that a group describes legal?  There may be no such map. -/
def legal? (group : Value) : Option Bool :=
  (Entity.ofGroup group).toOption.bind fun x =>
    x.props?.map fun fields => Value.isLegal (.map fields)

theorem legal?_of_ofGroup_eq_ok
    {group : Value} {x : Entity} (h : Entity.ofGroup group = .ok x) :
    legal? group = x.props?.map fun fields => Value.isLegal (.map fields) := by
  rw [legal?, h]
  rfl

section Saves

open ComposeError

/-- Nodes of one skeleton are saved alike if their maps are both legal or both not. -/
theorem savedNode?_eq_of_skeleton_eq
    {x x' : Entity} (h : x.skeleton = x'.skeleton)
    (hlegal : (x.props?.map fun fields => Value.isLegal (.map fields)) =
      x'.props?.map fun fields => Value.isLegal (.map fields)) :
    (savedNode? x).map Statement.skeleton = (savedNode? x').map Statement.skeleton := by
  have hprops : x.props?.map PropertyMap.skeleton = x'.props?.map PropertyMap.skeleton := by
    rw [← Entity.props?_skeleton, h, Entity.props?_skeleton]
  have hlabels : x.labels = x'.labels := by
    rw [← Entity.labels_skeleton, h, Entity.labels_skeleton]
  unfold savedNode?
  cases hx : x.props? <;> cases hx' : x'.props? <;> simp [hx, hx'] at hprops hlegal
  · rfl
  · simp only [hlegal, hlabels]
    split
    · simp only [Option.map_some, skeleton_savedNode, hprops]
    · rfl

/-- Do two outcomes of saving agree? -/
abbrev SameSaving :
    Except ComposeError (Option Statement) → Except ComposeError (Option Statement) → Prop :=
  Agree (fun e f => e.kind = f.kind) fun s? s?' =>
    s?.map Statement.skeleton = s?'.map Statement.skeleton

theorem saveNode_agree
    {args args' : List Value} (h : args.map Value.skeleton = args'.map Value.skeleton)
    (hlegal : legal? (nodeGroup args) = legal? (nodeGroup args')) :
    SameSaving (saveNode args) (saveNode args') := by
  rw [saveNode_eq, saveNode_eq]
  refine (liftShape_agree (Pattern.nodeOfGroup_agree (skeleton_nodeGroup_eq h)).and_eq).map ?_
  rintro x x' ⟨hx, hx', hskeleton⟩
  rw [legal?_of_ofGroup_eq_ok (Pattern.nodeOfGroup_eq_ok_iff.1 hx).1,
    legal?_of_ofGroup_eq_ok (Pattern.nodeOfGroup_eq_ok_iff.1 hx').1] at hlegal
  exact savedNode?_eq_of_skeleton_eq hskeleton hlegal

theorem saveEdgeOfGroups_agree
    {edge source target edge' source' target' : Value} (hedge : edge.skeleton = edge'.skeleton)
    (hsource : source.skeleton = source'.skeleton) (htarget : target.skeleton = target'.skeleton)
    (hlegal : legal? edge = legal? edge') :
    SameSaving (saveEdgeOfGroups edge source target)
      (saveEdgeOfGroups edge' source' target') := by
  rw [saveEdgeOfGroups_eq, saveEdgeOfGroups_eq]
  refine (liftShape_agree (Entity.ofGroup_agree hedge).and_eq).bind ?_
  rintro ⟨binding, labels⟩ ⟨binding', labels'⟩ ⟨he, he', hskeleton⟩
  rw [legal?_of_ofGroup_eq_ok he, legal?_of_ofGroup_eq_ok he'] at hlegal
  simp only [Entity.skeleton, Entity.mk.injEq] at hskeleton
  obtain ⟨hbinding, rfl⟩ := hskeleton
  by_cases hlabels : labels.isEmpty = true
  · simp only [hlabels, if_true]
    exact .error rfl
  · simp only [hlabels]
    cases binding <;> cases binding' <;> simp [Binding.skeleton] at hbinding
    case free.free =>
      exact .ok rfl
    case distance.distance =>
      exact .error rfl
    case props.props fields fields' =>
      have hfields : Value.isLegal (.map fields) = Value.isLegal (.map fields') := by
        simpa [Entity.props?] using hlegal
      simp only [hfields]
      by_cases hlegal' : Value.isLegal (.map fields') = true
      · simp only [hlegal', if_true]
        refine (liftShape_agree (Pattern.nodeOfGroup_agree hsource)).bind fun a a' ha => ?_
        refine (liftShape_agree (Pattern.nodeOfGroup_agree htarget)).map fun b b' hb => ?_
        simp only [Option.map_some, skeleton_savedEdge, hbinding, ha, hb]
      · simp only [hlegal']
        exact .ok rfl

end Saves

end Render

namespace EdgeType

open Outcome

/-- The copies of a statement for its types are made from its text. -/
theorem map_skeleton_expand (mode : Mode) (s : Statement) :
    (expand mode s).map (List.map Statement.skeleton) = expand mode s.skeleton := by
  have hquery : s.skeleton.query = s.query := by
    rfl
  unfold expand
  rw [hquery]
  cases Token.find? s.query.toList with
  | none =>
      cases mode <;> rfl
  | some token =>
      cases mode with
      | strict =>
          simp [Statement.skeleton, Function.comp_def]
      | relaxed =>
          by_cases hone : token.labels.length = 1
          · simp [hone]
          · simp [hone, Statement.skeleton]

end EdgeType

namespace Operation

/-- Does the operation create what it writes? -/
def creates : Operation → Bool
  | addNode | addEdge => true
  | getNode | getEdge | get => false

/-- The group that describes the entity that a unit creates. -/
def createdGroup? : Operation → List Value → Option Value
  | addNode, unit => some (Render.nodeGroup unit)
  | addEdge, edge :: _ => some edge
  | _, _ => none

/-- Which of the maps of the entities that units create are legal, unit by unit. -/
def legalityOf (op : Operation) (units : List (List Value)) : List (Option Bool) :=
  units.map fun unit => (op.createdGroup? unit).bind Render.legal?

/-- Which of the maps of the entities that a call creates are legal, unit by unit. -/
def legality (op : Operation) (args : List Value) : List (Option Bool) :=
  match Units.resolve op.unitRank args with
  | .ok units => op.legalityOf units
  | .error _ => []

/-- Do two outcomes of composing agree: errors of one kind, or statements of the same skeletons? -/
abbrev SameComposition :
    Except ComposeError (List Statement) → Except ComposeError (List Statement) → Prop :=
  Agree (fun e f => e.kind = f.kind) fun ss ss' =>
    ss.map Statement.skeleton = ss'.map Statement.skeleton

theorem expand_agree
    {mode : EdgeType.Mode} {s s' : Statement} (h : s.skeleton = s'.skeleton) :
    SameComposition (EdgeType.expand mode s) (EdgeType.expand mode s') := by
  refine .of_map_eq (fun _ => rfl) ?_
  rw [EdgeType.map_skeleton_expand, h, EdgeType.map_skeleton_expand]

/-- Units of one skeleton, whose created entities are both legal or both not, are composed alike. -/
theorem ofUnit_agree
    {op : Operation} {unit unit' : List Value}
    (h : unit.map Value.skeleton = unit'.map Value.skeleton)
    (hlegal : (op.createdGroup? unit).bind Render.legal? =
      (op.createdGroup? unit').bind Render.legal?) :
    SameComposition (op.ofUnit unit) (op.ofUnit unit') := by
  cases op with
  | addNode =>
      refine (Render.saveNode_agree h hlegal).map fun s? s?' hs => ?_
      rw [← Option.toList_map, hs, Option.toList_map]
  | getNode =>
      refine (Render.findNode_agree h).map fun s s' hs => ?_
      simpa using hs
  | addEdge =>
      have hlength : unit.length = unit'.length := by
        simpa using congrArg List.length h
      match unit, unit' with
      | [edge, source, target], [edge', source', target'] =>
          simp only [List.map_cons, List.cons.injEq] at h
          refine (Render.saveEdgeOfGroups_agree h.1 h.2.1 h.2.2.1 hlegal).bind fun s? s?' hs => ?_
          cases s? <;> cases s?' <;> simp at hs
          · exact .ok rfl
          · exact expand_agree hs
      | [], [] | [_], [_] | [_, _], [_, _] | _ :: _ :: _ :: _ :: _, _ :: _ :: _ :: _ :: _ =>
          exact .error rfl
  | getEdge =>
      exact (Render.findEdge_agree h).bind fun s s' hs => expand_agree hs
  | get =>
      exact (Render.findGraph_agree h).bind fun s s' hs => expand_agree hs

theorem ofUnits_agree
    {op : Operation} {units units' : List (List Value)}
    (h : units.map (List.map Value.skeleton) = units'.map (List.map Value.skeleton))
    (hlegal : op.legalityOf units = op.legalityOf units') :
    SameComposition (op.ofUnits units) (op.ofUnits units') := by
  induction units generalizing units' with
  | nil =>
      obtain rfl : units' = [] := by simpa using h.symm
      exact .ok rfl
  | cons unit rest ih =>
      obtain ⟨unit', rest', rfl⟩ : ∃ unit' rest', units' = unit' :: rest' := by
        cases units' <;> simp at h ⊢
      simp only [legalityOf, List.map_cons, List.cons.injEq] at h hlegal
      rw [ofUnits_cons, ofUnits_cons]
      refine (ofUnit_agree h.1 hlegal.1).bind fun ss ss' hss => ?_
      refine (ih h.2 hlegal.2).map fun ts ts' hts => ?_
      rw [List.map_append, hss, hts, List.map_append]

/-- Reads create nothing, so that nothing they create is illegal. -/
theorem legality_eq_of_not_creates
    {op : Operation} {args args' : List Value} (hop : op.creates = false)
    (h : args.map Value.skeleton = args'.map Value.skeleton) :
    op.legality args = op.legality args' := by
  -- Only the number of units is left, and that is the same for skeletons.
  have hskeleton (args : List Value) :
      op.legality args = op.legality (args.map Value.skeleton) := by
    have hnone (unit : List Value) : op.createdGroup? unit = none := by
      cases op <;> first | rfl | cases hop
    unfold legality
    rw [Units.resolve_skeleton]
    cases Units.resolve op.unitRank args with
    | error e =>
        rfl
    | ok units =>
        simp [legalityOf, hnone, Function.comp_def]
  rw [hskeleton, h, ← hskeleton]

/-- Calls with arguments of the same skeletons compose statements of the same skeletons. -/
theorem statements_agree
    {op : Operation} {args args' : List Value}
    (h : args.map Value.skeleton = args'.map Value.skeleton)
    (hlegal : op.legality args = op.legality args') :
    SameComposition (op.statements args) (op.statements args') := by
  have hresolve : (Units.resolve op.unitRank args).map (List.map (List.map Value.skeleton)) =
      (Units.resolve op.unitRank args').map (List.map (List.map Value.skeleton)) := by
    rw [← Units.resolve_skeleton, h, Units.resolve_skeleton]
  rw [statements_eq, statements_eq]
  refine (ComposeError.liftShape_agree
    (Agree.of_map_eq (fun _ => trivial) hresolve).and_eq).bind ?_
  rintro units units' ⟨hunits, hunits', hskeleton⟩
  simp only [legality, hunits, hunits'] at hlegal
  exact ofUnits_agree hskeleton hlegal

/-- Property values never show in the texts of statements, nor in the names of parameters.

The calls have arguments of the same skeletons, so that they differ in nothing but what is
stored in property maps.  Reads then fail alike or compose the same texts.  So do creations
whose corresponding maps are both legal or both illegal.
-/
theorem texts_agree
    (op : Operation) {args args' : List Value}
    (h : args.map Value.skeleton = args'.map Value.skeleton)
    (hlegal : op.creates = true → op.legality args = op.legality args') :
    (∃ e e', op.statements args = .error e ∧ op.statements args' = .error e' ∧
      e.kind = e'.kind) ∨
    ∃ ss ss', op.statements args = .ok ss ∧ op.statements args' = .ok ss' ∧
      List.Forall₂ (fun s s' => s.query = s'.query ∧ s.params.keys = s'.params.keys) ss ss' := by
  have hsame : op.legality args = op.legality args' := by
    cases hop : op.creates with
    | true =>
        exact hlegal hop
    | false =>
        exact legality_eq_of_not_creates hop h
  have hagree := statements_agree h hsame
  generalize hr : op.statements args = r at hagree
  generalize hr' : op.statements args' = r' at hagree
  cases hagree with
  | error hkind =>
      exact Or.inl ⟨_, _, rfl, rfl, hkind⟩
  | ok hskeleton =>
      refine Or.inr ⟨_, _, rfl, rfl, ?_⟩
      rw [← List.forall₂_eq_eq_eq, List.forall₂_map_left_iff,
        List.forall₂_map_right_iff] at hskeleton
      refine hskeleton.imp fun s s' hs => ⟨?_, Statement.keys_params_of_skeleton_eq hs⟩
      have hquery : s.skeleton.query = s'.skeleton.query := by
        rw [hs]
      exact hquery

/-- An edge of two types and its ends, with notes on them. -/
def notedEdge (edgeNote endNote : Value) : List Value :=
  [.list [.map [("note", edgeNote), ("hash_by", .str "note"), ("hash", edgeNote),
      ("updated_by", .str "ann"), ("updated_when", .str "now")],
      .list [.str "knows", .str "likes"]],
    .list [.map [("note", endNote)], .str "alpha"], .list [.map [("note", edgeNote)]]]

def plainEdge : List Value :=
  notedEdge (.int 1) .null

def hostileEdge : List Value :=
  notedEdge (.str "`]->() DETACH DELETE a //") (.list [.map [("x", .list [])]])

/-- Notes that look like clauses, or that are nested, compose the texts that plain ones do. -/
theorem hostile_notes_do_not_show :
    plainEdge.map Value.skeleton = hostileEdge.map Value.skeleton ∧
    addEdge.legality plainEdge = addEdge.legality hostileEdge ∧
    ((∃ e e', addEdge.statements plainEdge = .error e ∧
        addEdge.statements hostileEdge = .error e' ∧ e.kind = e'.kind) ∨
      ∃ ss ss', addEdge.statements plainEdge = .ok ss ∧ addEdge.statements hostileEdge = .ok ss' ∧
        List.Forall₂ (fun s s' => s.query = s'.query ∧ s.params.keys = s'.params.keys) ss ss') := by
  have hskeleton : plainEdge.map Value.skeleton = hostileEdge.map Value.skeleton := by
    decide +kernel
  have hlegal : addEdge.legality plainEdge = addEdge.legality hostileEdge := by
    decide +kernel
  exact ⟨hskeleton, hlegal, texts_agree addEdge hskeleton fun _ => hlegal⟩

/-- Both edges are legal, and are composed once for each of their types. -/
example :
    addEdge.legality hostileEdge = [some true] ∧
    (addEdge.statements plainEdge).toOption.map List.length = some 2 := by
  decide +kernel

end Operation

end CypherBatch

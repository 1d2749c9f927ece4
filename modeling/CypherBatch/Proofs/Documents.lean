import CypherBatch.Proofs.Conventions
import CypherBatch.Proofs.Loading
import CypherBatch.Proofs.NodeCalls

/-!
# What a document composes

A document lists nodes, each with a property map and perhaps a label, and edges, each with a
property map, a label and two groups.  Loading gives each of the two lists to an operation as
one boxed argument, so that the reader has to find the entries in it from the rank, and takes
the rank from the first entry of the list.

A label is a name or a list of names.  A list of one name is no entity part, and raises the
rank of an entry by one.  As the label of the first entry it makes the reader look one level
too deep: each map and each label of the nodes becomes a unit of its own, and the groups of
the edges are taken for edges.  Then the nodes lose their labels and the edges are refused.
Under any other first entries a document composes what its entries compose one by one.
-/

namespace CypherBatch

open Outcome

namespace Loader

open Value

/-- A label as a document gives it: a name, or a list of names. -/
inductive EntryLabel where
  | name (s : String)
  | names (first : String) (rest : List String)
deriving DecidableEq

namespace EntryLabel

def value : EntryLabel → Value
  | name s => .str s
  | names first rest => .list ((first :: rest).map .str)

/-- The names of a label. -/
def all : EntryLabel → List String
  | name s => [s]
  | names first rest => first :: rest

/-- Is this a list of one name? -/
def isLone : EntryLabel → Bool
  | names _ [] => true
  | _ => false

/-- Only a list of one name does not look like a label to the reader of ranks. -/
theorem isEntityPart_value (label : EntryLabel) : label.value.isEntityPart = !label.isLone := by
  match label with
  | name _ | names _ [] | names _ (_ :: _) =>
      rfl

/-- A label is read as its names, unless it is read as a distance or refused. -/
theorem names_of_role
    {label : EntryLabel} (hbinding : (EntityPart.ofValue label.value).binding? = none)
    (hrole : EntityPart.ofValue label.value ≠ .unknown) :
    EntityPart.ofValue label.value = .labels label.all := by
  cases label with
  | name s =>
      cases hstar : isDistanceText s with
      | true =>
          simp [value, EntityPart.ofValue, hstar, EntityPart.binding?] at hbinding
      | false =>
          simp [value, EntityPart.ofValue, hstar, all]
  | names first rest =>
      have hvalue : EntityPart.ofValue (names first rest).value = _ :=
        EntityPart.ofValue_list_cons (.str first) (rest.map .str)
      rw [hvalue] at hrole ⊢
      cases hnames : labelNamesOf? (.str first :: rest.map .str) with
      | none =>
          rw [hnames] at hrole
          exact absurd rfl hrole
      | some found =>
          have hfound : labelNamesOf? ((first :: rest).map .str) = some found := hnames
          obtain ⟨rfl, -⟩ := labelNamesOf?_map_str.1 hfound
          rfl

end EntryLabel

/-- The items of a property map with its label, if it has one. -/
def labelled (fields : PropertyMap) (label? : Option EntryLabel) : List Value :=
  .map fields :: label?.toList.map EntryLabel.value

section Labelled

variable {fields : PropertyMap} {label? : Option EntryLabel}

theorem isMultiLabel_labelled : isMultiLabel (.list (labelled fields label?)) = false := by
  cases label? <;> rfl

theorem all_isEntityPart_labelled :
    (labelled fields label?).all isEntityPart = !label?.any EntryLabel.isLone := by
  cases label? with
  | none =>
      rfl
  | some label =>
      have hmap : isEntityPart (.map fields) = true := by
        rfl
      simp [labelled, hmap, EntryLabel.isEntityPart_value]

/-- A list of one name raises the rank. -/
theorem rank_labelled :
    rank (.list (labelled fields label?)) = if label?.any EntryLabel.isLone then 1 else 0 := by
  cases hlone : label?.any EntryLabel.isLone with
  | false =>
      exact rank_list_of_parts (by rw [all_isEntityPart_labelled, hlone]; rfl)
  | true =>
      have hparts : (labelled fields label?).all isEntityPart = false := by
        rw [all_isEntityPart_labelled, hlone]
        rfl
      exact rank_list_cons_of_not_parts hparts

/-- A map with a label is read as the entity that has both. -/
theorem ofItems_labelled
    {group : Value} {x : Entity} (h : Entity.ofItems group (labelled fields label?) = .ok x) :
    x = ⟨.props fields, label?.elim [] EntryLabel.all⟩ := by
  have hroles := Entity.role_of_mem_of_ofItems h
  obtain ⟨b?, names?, hbindings, hnames, rfl⟩ := Entity.ofItems_eq_ok h
  have hmap : (EntityPart.ofValue (.map fields)).binding? = some (.props fields) := by
    rfl
  have hmap' : (EntityPart.ofValue (.map fields)).labels? = none := by
    rfl
  simp only [labelled, List.filterMap_cons, hmap] at hbindings
  simp only [labelled, List.filterMap_cons, hmap'] at hnames
  -- The map is the one binding, so that the label is none.
  obtain ⟨rfl, hfree⟩ : b? = some (.props fields) ∧
      (label?.toList.map EntryLabel.value).filterMap
        (fun v => (EntityPart.ofValue v).binding?) = [] := by
    cases b? <;> simp at hbindings ⊢
    exact ⟨hbindings.1.symm, hbindings.2⟩
  cases label? with
  | none =>
      cases names? with
      | none =>
          rfl
      | some _ =>
          simp at hnames
  | some label =>
      have hlabels : EntityPart.ofValue label.value = .labels label.all :=
        EntryLabel.names_of_role (by simpa using hfree) (hroles _ (by simp [labelled]))
      cases names? <;> simp [hlabels, EntityPart.labels?] at hnames
      rw [← hnames]
      rfl

/-- A map that is read with a label is read with the names of the label. -/
theorem ofGroup_labelled
    {x : Entity} (h : Entity.ofGroup (.list (labelled fields label?)) = .ok x) :
    Entity.ofItems (.list (labelled fields label?)) (labelled fields label?) = .ok x ∧
      x = ⟨.props fields, label?.elim [] EntryLabel.all⟩ := by
  have hnone : labelNamesOf? (labelled fields label?) = none := by
    rfl
  rw [Entity.ofGroup_list_of_labelNamesOf?_eq_none hnone] at h
  exact ⟨h, ofItems_labelled h⟩

end Labelled

/-- A node of a document. -/
structure NodeEntry where
  fields : PropertyMap
  label? : Option EntryLabel
deriving DecidableEq

/-- An edge of a document, with what is given of its two nodes. -/
structure EdgeEntry where
  fields : PropertyMap
  label : EntryLabel
  source : Value
  target : Value
deriving DecidableEq

namespace NodeEntry

variable {n : NodeEntry}

def unit (n : NodeEntry) : List Value :=
  labelled n.fields n.label?

/-- The names of the label, if there is one. -/
def names (n : NodeEntry) : List String :=
  n.label?.elim [] EntryLabel.all

def isLone (n : NodeEntry) : Bool :=
  n.label?.any EntryLabel.isLone

/-- What the node composes alone: the statement that saves it, if its map is legal. -/
def statements (n : NodeEntry) : Except ComposeError (List Statement) :=
  (Render.saveNode n.unit).map fun s? => if Value.isLegal (.map n.fields) then s?.toList else []

/-- The statement that saves the node under the given names. -/
def savedAs (n : NodeEntry) (names : List String) : Option Statement :=
  Render.savedNode? ⟨.props n.fields, names⟩

theorem savedAs_eq_none_iff {names : List String} :
    n.savedAs names = none ↔ Value.isLegal (.map n.fields) = false := by
  by_cases hlegal : Value.isLegal (.map n.fields) = true <;>
    simp [savedAs, Render.savedNode?, Entity.props?, hlegal]

/-- A node that is accepted is saved under the names of its label. -/
theorem saveNode_unit_eq_ok
    {r : Option Statement} (h : Render.saveNode n.unit = .ok r) :
    Entity.ofItems (.list n.unit) n.unit = .ok ⟨.props n.fields, n.names⟩ ∧
      r = n.savedAs n.names := by
  rw [Render.saveNode_eq, map_eq_ok_iff] at h
  obtain ⟨x, hx, rfl⟩ := h
  rw [ComposeError.liftShape_eq_ok_iff, Pattern.nodeOfGroup_eq_ok_iff] at hx
  -- A map alone is the group that its list is.
  have hgroup : Entity.ofGroup (.list n.unit) = .ok x := by
    obtain ⟨fields, _ | label⟩ := n
    · exact hx.1
    · exact hx.1
  obtain ⟨hitems, rfl⟩ := ofGroup_labelled hgroup
  exact ⟨hitems, rfl⟩

theorem ofUnit_unit (n : NodeEntry) : Operation.addNode.ofUnit n.unit = n.statements := by
  rw [Operation.ofUnit, statements]
  cases hsaved : Render.saveNode n.unit with
  | error e =>
      rfl
  | ok r =>
      obtain ⟨-, rfl⟩ := saveNode_unit_eq_ok hsaved
      cases hlegal : Value.isLegal (.map n.fields) with
      | true =>
          rfl
      | false =>
          rw [savedAs_eq_none_iff.2 hlegal]
          rfl

theorem statements_eq_ok
    {ss : List Statement} (h : n.statements = .ok ss) :
    Entity.ofItems (.list n.unit) n.unit = .ok ⟨.props n.fields, n.names⟩ ∧
      ss = (n.savedAs n.names).toList := by
  rw [← ofUnit_unit, Operation.ofUnit, map_eq_ok_iff] at h
  obtain ⟨r, hr, rfl⟩ := h
  obtain ⟨hitems, rfl⟩ := saveNode_unit_eq_ok hr
  exact ⟨hitems, rfl⟩

/-- A node is saved without its names as it is with them if it is not saved or has no names. -/
theorem savedAs_nil_eq_iff (n : NodeEntry) :
    (n.savedAs []).toList = (n.savedAs n.names).toList ↔
      (Value.isLegal (.map n.fields) = true → ∀ name ∈ n.names, name = "") := by
  have hnames := Operation.savedNode?_without_labels ⟨.props n.fields, n.names⟩
  have hnone : n.savedAs n.names = none ↔ Value.isLegal (.map n.fields) = false :=
    savedAs_eq_none_iff
  unfold savedAs at hnone ⊢
  rw [hnames, hnone]
  cases Value.isLegal (.map n.fields) <;> simp

end NodeEntry

namespace EdgeEntry

variable {e : EdgeEntry}

def group (e : EdgeEntry) : Value :=
  .list (labelled e.fields (some e.label))

def unit (e : EdgeEntry) : List Value :=
  [e.group, e.source, e.target]

/-- What the edge composes alone: a statement for each of its types, if its map is legal. -/
def statements (e : EdgeEntry) : Except ComposeError (List Statement) :=
  (Render.saveEdge e.unit).bind fun s? =>
    if Value.isLegal (.map e.fields) then Operation.expanded .strict s? else .ok []

/-- An edge whose map is not legal is not saved. -/
theorem saveEdge_unit_of_not_legal
    {r : Option Statement} (h : Render.saveEdge e.unit = .ok r)
    (hlegal : Value.isLegal (.map e.fields) = false) :
    r = none := by
  cases r with
  | none =>
      rfl
  | some s =>
      obtain ⟨labels, fields, a, b, he, -, hsaved, -⟩ := Render.saveEdgeOfGroups_eq_some_iff.1 h
      obtain ⟨-, heq⟩ := ofGroup_labelled he
      simp only [Entity.mk.injEq, Binding.props.injEq] at heq
      rw [heq.1, hlegal] at hsaved
      cases hsaved

theorem ofUnit_unit (e : EdgeEntry) : Operation.addEdge.ofUnit e.unit = e.statements := by
  rw [Operation.ofUnit, statements]
  cases hsaved : Render.saveEdge e.unit with
  | error e =>
      rfl
  | ok r =>
      cases hlegal : Value.isLegal (.map e.fields) with
      | true =>
          rfl
      | false =>
          rw [saveEdge_unit_of_not_legal hsaved hlegal]
          rfl

end EdgeEntry

/-- The nodes and edges of a document. -/
structure Document where
  nodes : List NodeEntry
  edges : List EdgeEntry
deriving DecidableEq

namespace Document

/-- The maps that are made legal. -/
def maps (doc : Document) : List PropertyMap :=
  doc.nodes.map NodeEntry.fields ++ doc.edges.map EdgeEntry.fields

/-- The document with other maps in the place of its maps. -/
def mapMaps (f : PropertyMap → PropertyMap) (doc : Document) : Document :=
  ⟨doc.nodes.map fun n => { n with fields := f n.fields },
    doc.edges.map fun e => { e with fields := f e.fields }⟩

/-- Is this what a text says? -/
def IsTold (doc : Document) (text : String) : Prop :=
  ∃ fields, Json.parse text = .ok (.map fields) ∧
    (PropertyMap.get? fields "nodes").getD (.list []) =
      .list (doc.nodes.map fun n => .list n.unit) ∧
    (PropertyMap.get? fields "edges").getD (.list []) =
      .list (doc.edges.map fun e => .list e.unit)

/-- What the nodes and edges compose one by one, in their order. -/
def written (doc : Document) : Except ComposeError Composed :=
  (doc.nodes.mapM NodeEntry.statements).bind fun nodes =>
    (doc.edges.mapM EdgeEntry.statements).map fun edges => ⟨nodes.flatten, edges.flatten⟩

/-- Has the first node a list of one name as its label? -/
def loneNode (doc : Document) : Bool :=
  doc.nodes.head?.any NodeEntry.isLone

/-- Has the first edge a list of one name as its label? -/
def loneEdge (doc : Document) : Bool :=
  doc.edges.head?.any fun e => e.label.isLone

variable {doc : Document}

section Legalizing

variable {stamp : Stamp} {legal : PropertyMap → PropertyMap}

theorem legalEntry_labelled
    {fields : PropertyMap} {label? : Option EntryLabel}
    (h : PropertyMap.legalize stamp.hashBy (.str stamp.updatedBy) stamp.now fields =
      .ok (legal fields)) :
    legalEntry stamp (.list (labelled fields label?)) =
      .ok (.list (labelled (legal fields) label?)) := by
  simp [legalEntry, itemsOf, items?, labelled, h]

/-- The entries of a text are those of its document with their maps made legal. -/
theorem entriesOf_eq_ok
    {text : String} (htext : doc.IsTold text)
    (hlegal : ∀ fields ∈ doc.maps,
      PropertyMap.legalize stamp.hashBy (.str stamp.updatedBy) stamp.now fields =
        .ok (legal fields)) :
    entriesOf stamp text =
      .ok ((doc.mapMaps legal).nodes.map fun n => .list n.unit,
        (doc.mapMaps legal).edges.map fun e => .list e.unit) := by
  obtain ⟨fields, hparse, hnodes, hedges⟩ := htext
  have hnode : ∀ n ∈ doc.nodes, legalEntry stamp (.list n.unit) =
      .ok (.list (labelled (legal n.fields) n.label?)) := by
    intro n hn
    exact legalEntry_labelled (hlegal n.fields (by simp [maps]; grind))
  have hedge : ∀ e ∈ doc.edges, legalEdge stamp (.list e.unit) =
      .ok (.list [.list (labelled (legal e.fields) (some e.label)), e.source, e.target]) := by
    intro e he
    have hgroup : legalEntry stamp (.list (labelled e.fields (some e.label))) =
        .ok (.list (labelled (legal e.fields) (some e.label))) :=
      legalEntry_labelled (hlegal e.fields (by simp [maps]; grind))
    simp [legalEdge, itemsOf, items?, EdgeEntry.unit, EdgeEntry.group, hgroup]
  have hlegalNodes : legalNodes stamp (.list (doc.nodes.map fun n => .list n.unit)) =
      .ok ((doc.mapMaps legal).nodes.map fun n => .list n.unit) := by
    simp only [legalNodes, itemsOf, items?, bind_eq, ok_bind, List.mapM_map, mapMaps, List.map_map]
    exact mapM_eq_ok_map hnode
  have hlegalEdges : legalEdges stamp (.list (doc.edges.map fun e => .list e.unit)) =
      .ok ((doc.mapMaps legal).edges.map fun e => .list e.unit) := by
    simp only [legalEdges, itemsOf, items?, bind_eq, ok_bind, List.mapM_map, mapMaps, List.map_map]
    exact mapM_eq_ok_map hedge
  simp only [entriesOf, hparse, hnodes, hedges, hlegalNodes, hlegalEdges, bind_eq, ok_bind, pure_eq]

end Legalizing

section Nodes

theorem rank_node_unit (n : NodeEntry) : rank (.list n.unit) = if n.isLone then 1 else 0 :=
  rank_labelled

theorem isMultiLabel_node_unit (n : NodeEntry) : isMultiLabel (.list n.unit) = false :=
  isMultiLabel_labelled

/-- Nodes are read one by one if the first one has no list of one name. -/
theorem statementsOf_nodes (h : doc.loneNode = false) :
    statementsOf .addNode (doc.nodes.map fun n => .list n.unit) =
      (doc.nodes.mapM NodeEntry.statements).map List.flatten := by
  obtain ⟨nodes, edges⟩ := doc
  cases nodes with
  | nil =>
      rfl
  | cons first rest =>
      have hlone : first.isLone = false := h
      have hrank : (rank (.list first.unit) : Int) = Operation.addNode.unitRank := by
        rw [rank_node_unit, hlone]
        rfl
      have hstatements := Operation.addNode.statements_boxed_of_first
        (rest.map NodeEntry.unit) (isMultiLabel_node_unit first) hrank
      rw [← List.map_cons, Operation.ofUnits_map NodeEntry.ofUnit_unit, List.map_map] at hstatements
      exact hstatements

/-- After a list of one name each map and each label is a unit of its own. -/
theorem statementsOf_nodes_of_loneNode
    (h : doc.loneNode = true)
    (haccepted : ∀ n ∈ doc.nodes, ∃ ss, n.statements = .ok ss) :
    statementsOf .addNode (doc.nodes.map fun n => .list n.unit) =
      .ok (doc.nodes.flatMap fun n => (n.savedAs []).toList) := by
  obtain ⟨nodes, edges⟩ := doc
  cases nodes with
  | nil =>
      cases h
  | cons first rest =>
      have hlone : first.isLone = true := h
      have hrank : (rank (.list first.unit) : Int) = Operation.addNode.unitRank + 1 := by
        rw [rank_node_unit, hlone]
        rfl
      have hitems : ∀ n ∈ first :: rest,
          Operation.addNode.ofUnits (n.unit.map spliced) = .ok (n.savedAs []).toList := by
        intro n hn
        obtain ⟨ss, hss⟩ := haccepted n hn
        exact Operation.ofUnits_addNode_items (NodeEntry.statements_eq_ok hss).1 rfl
      have hstatements := Operation.addNode.statements_boxed_of_deep_first
        (rest.map NodeEntry.unit) (isMultiLabel_node_unit first) hrank
      rw [← List.map_cons, ← List.flatMap_def, List.map_flatMap,
        Operation.ofUnits_flatMap_eq_ok hitems, List.map_map] at hstatements
      exact hstatements

end Nodes

section Edges

theorem rank_edge_unit (e : EdgeEntry) :
    rank (.list e.unit) = 1 + if e.label.isLone then 1 else 0 := by
  have hparts : e.unit.all isEntityPart = false := by
    simp [EdgeEntry.unit, EdgeEntry.group, isMultiLabel_labelled]
  rw [EdgeEntry.unit, rank_list_cons_of_not_parts hparts, EdgeEntry.group, rank_labelled,
    Option.any_some]

theorem isMultiLabel_edge_unit (e : EdgeEntry) : isMultiLabel (.list e.unit) = false :=
  isMultiLabel_list_cons_list _ _

/-- Edges are read one by one if the first one has no list of one name. -/
theorem statementsOf_edges (h : doc.loneEdge = false) :
    statementsOf .addEdge (doc.edges.map fun e => .list e.unit) =
      (doc.edges.mapM EdgeEntry.statements).map List.flatten := by
  obtain ⟨nodes, edges⟩ := doc
  cases edges with
  | nil =>
      rfl
  | cons first rest =>
      have hlone : first.label.isLone = false := h
      have hrank : (rank (.list first.unit) : Int) = Operation.addEdge.unitRank := by
        rw [rank_edge_unit, hlone]
        rfl
      have hstatements := Operation.addEdge.statements_boxed_of_first
        (rest.map EdgeEntry.unit) (isMultiLabel_edge_unit first) hrank
      rw [← List.map_cons, Operation.ofUnits_map EdgeEntry.ofUnit_unit, List.map_map] at hstatements
      exact hstatements

/-- After a list of one name the first group is taken for an edge, and refused. -/
theorem statementsOf_edges_of_loneEdge (h : doc.loneEdge = true) :
    statementsOf .addEdge (doc.edges.map fun e => .list e.unit) = .error (.groupCount 2) := by
  obtain ⟨nodes, edges⟩ := doc
  cases edges with
  | nil =>
      cases h
  | cons first rest =>
      have hlone : first.label.isLone = true := h
      have hrank : (rank (.list first.unit) : Int) = Operation.addEdge.unitRank + 1 := by
        rw [rank_edge_unit, hlone]
        rfl
      have hstatements := Operation.addEdge.statements_boxed_of_deep_first
        (rest.map EdgeEntry.unit) (isMultiLabel_edge_unit first) hrank
      rw [← List.map_cons, List.map_map] at hstatements
      refine hstatements.trans ?_
      -- The first unit has the two items of the first group.
      have hfirst : Operation.addEdge.ofUnit first.group.spliced = .error (.groupCount 2) := by
        rfl
      rw [List.map_cons, List.flatten_cons, EdgeEntry.unit, List.cons_append, List.map_cons,
        Operation.ofUnits_cons, hfirst]
      rfl

end Edges

section Composing

theorem composedOf_entries (h : doc.loneNode = false) (h' : doc.loneEdge = false) :
    composedOf (doc.nodes.map fun n => .list n.unit, doc.edges.map fun e => .list e.unit) =
      doc.written := by
  rw [composedOf, statementsOf_nodes h, statementsOf_edges h', written]
  cases doc.nodes.mapM NodeEntry.statements with
  | error e =>
      rfl
  | ok nodes =>
      cases doc.edges.mapM EdgeEntry.statements <;> rfl

/-- A document that is accepted saves its nodes under the names of their labels. -/
theorem written_eq_ok
    {composed : Composed} (h : doc.written = .ok composed) :
    (∀ n ∈ doc.nodes, ∃ ss, n.statements = .ok ss) ∧
      composed.nodes = doc.nodes.flatMap (fun n => (n.savedAs n.names).toList) ∧
      (doc.edges.mapM EdgeEntry.statements).map List.flatten = .ok composed.edges := by
  obtain ⟨nodes, hnodes, h⟩ := bind_eq_ok_iff.1 h
  obtain ⟨edges, hedges, rfl⟩ := map_eq_ok_iff.1 h
  have haccepted := exists_eq_ok_of_mapM hnodes
  refine ⟨haccepted, ?_, by rw [hedges]; rfl⟩
  have hsaved : ∀ n ∈ doc.nodes, n.statements = .ok (n.savedAs n.names).toList := by
    intro n hn
    obtain ⟨ss, hss⟩ := haccepted n hn
    rw [hss, (NodeEntry.statements_eq_ok hss).2]
  rw [mapM_eq_ok_map hsaved, Except.ok.injEq] at hnodes
  rw [← hnodes, List.flatMap_def]

/-- Lists put one behind another are the same only if each is, once their lengths are. -/
theorem flatMap_eq_flatMap_iff
    {α β : Type} {f g : α → List β} {xs : List α}
    (h : ∀ x ∈ xs, (f x).length = (g x).length) :
    xs.flatMap f = xs.flatMap g ↔ ∀ x ∈ xs, f x = g x := by
  induction xs with
  | nil =>
      simp
  | cons x xs ih =>
      rw [List.forall_mem_cons] at h ⊢
      rw [List.flatMap_cons, List.flatMap_cons, ← ih h.2]
      constructor
      · exact fun happend => List.append_inj happend h.1
      · rintro ⟨hx, hxs⟩
        rw [hx, hxs]

/-- The nodes are saved without their names exactly if the saved ones have none to lose. -/
theorem flatMap_savedAs_eq_iff (nodes : List NodeEntry) :
    nodes.flatMap (fun n => (n.savedAs []).toList) =
        nodes.flatMap (fun n => (n.savedAs n.names).toList) ↔
      ∀ n ∈ nodes, Value.isLegal (.map n.fields) = true → ∀ name ∈ n.names, name = "" := by
  have hlength (n : NodeEntry) :
      (n.savedAs []).toList.length = (n.savedAs n.names).toList.length := by
    cases hlegal : Value.isLegal (.map n.fields) with
    | false =>
        rw [NodeEntry.savedAs_eq_none_iff.2 hlegal, NodeEntry.savedAs_eq_none_iff.2 hlegal]
    | true =>
        simp [NodeEntry.savedAs, Render.savedNode?, Entity.props?, hlegal]
  rw [flatMap_eq_flatMap_iff fun n _ => hlength n]
  exact forall₂_congr fun n _ => n.savedAs_nil_eq_iff

theorem composedOf_entries_eq_ok_iff
    {composed : Composed} (h : doc.written = .ok composed) :
    composedOf (doc.nodes.map fun n => .list n.unit, doc.edges.map fun e => .list e.unit) =
        .ok composed ↔
      doc.loneEdge = false ∧
        (doc.loneNode = false ∨
          ∀ n ∈ doc.nodes, Value.isLegal (.map n.fields) = true → ∀ name ∈ n.names, name = "") := by
  cases hedge : doc.loneEdge with
  | true =>
      rw [composedOf, statementsOf_edges_of_loneEdge hedge]
      cases statementsOf .addNode (doc.nodes.map fun n => .list n.unit) <;> simp
  | false =>
      cases hnode : doc.loneNode with
      | false =>
          simp [composedOf_entries hnode hedge, h]
      | true =>
          obtain ⟨haccepted, hnodes, hedges⟩ := written_eq_ok h
          obtain ⟨nodes, edges⟩ := composed
          rw [composedOf, statementsOf_nodes_of_loneNode hnode haccepted, statementsOf_edges hedge,
            hedges, ← flatMap_savedAs_eq_iff, ← hnodes]
          simp

end Composing

@[simp] theorem loneNode_mapMaps (f : PropertyMap → PropertyMap) (doc : Document) :
    (doc.mapMaps f).loneNode = doc.loneNode := by
  obtain ⟨_ | _, edges⟩ := doc <;> rfl

@[simp] theorem loneEdge_mapMaps (f : PropertyMap → PropertyMap) (doc : Document) :
    (doc.mapMaps f).loneEdge = doc.loneEdge := by
  obtain ⟨nodes, _ | _⟩ := doc <;> rfl

/-- A document composes what its nodes and edges compose one by one, in their order, exactly
when its first edge has no list of one name as its label, and its first node has none either
or the saved nodes have no names at all.

The labels of other entries may be lists of one name.  If neither of the first entries has
such a label, then errors are the same, too.
-/
theorem compose_document_iff
    {stamp : Stamp} {text : String} {legal : PropertyMap → PropertyMap}
    (htext : doc.IsTold text)
    (hlegal : ∀ fields ∈ doc.maps,
      PropertyMap.legalize stamp.hashBy (.str stamp.updatedBy) stamp.now fields =
        .ok (legal fields)) :
    (doc.loneNode = false → doc.loneEdge = false →
      (compose stamp text).2 = (doc.mapMaps legal).written.mapError .compose) ∧
    ∀ composed, (doc.mapMaps legal).written = .ok composed →
      ((compose stamp text).2 = .ok composed ↔
        doc.loneEdge = false ∧
          (doc.loneNode = false ∨
            ∀ n ∈ (doc.mapMaps legal).nodes, Value.isLegal (.map n.fields) = true →
              ∀ name ∈ n.names, name = "")) := by
  have hmapError {r : Except ComposeError Composed} {composed : Composed} :
      r.mapError Error.compose = .ok composed ↔ r = .ok composed := by
    cases r <;> simp [Except.mapError]
  rw [compose_snd, entriesOf_eq_ok htext hlegal, ok_bind]
  constructor
  · intro hnode hedge
    rw [composedOf_entries (by simpa using hnode) (by simpa using hedge)]
  · intro composed hwritten
    rw [hmapError, composedOf_entries_eq_ok_iff hwritten, loneNode_mapMaps, loneEdge_mapMaps]

/-- The maps of the examples take their identity from their names, and are written at the
beginning of 1970. -/
def nameStamp : Stamp :=
  ⟨.str "name", "ann", ⟨0⟩⟩

def stampedByName (fields : PropertyMap) : PropertyMap :=
  let stored :=
    PropertyMap.legalize nameStamp.hashBy (.str nameStamp.updatedBy) nameStamp.now fields
  stored.toOption.getD []

/-- Two tracks, the second one with a list of one name, a node that is not legal, and an edge. -/
def tracks : Document where
  nodes :=
    [⟨[("name", .str "A")], some (.names "alpha" ["song"])⟩,
      ⟨[("name", .str "B")], some (.names "beta" [])⟩,
      ⟨[("name", .str "C"), ("at", .list [.list []])], none⟩]
  edges :=
    [⟨[("name", .str "E")], .names "next" ["after"], .str "alpha", .list [.str "beta"]⟩]

def tracksText : String :=
  "\x7b\"nodes\": [[\x7b\"name\": \"A\"\x7d, [\"alpha\", \"song\"]], " ++
    "[\x7b\"name\": \"B\"\x7d, [\"beta\"]], [\x7b\"name\": \"C\", \"at\": [[]]\x7d]], " ++
    "\"edges\": [[[\x7b\"name\": \"E\"\x7d, [\"next\", \"after\"]], \"alpha\", [\"beta\"]]]\x7d"

theorem tracks_told : tracks.IsTold tracksText := by
  refine ⟨[("nodes", .list (tracks.nodes.map fun n => .list n.unit)),
    ("edges", .list (tracks.edges.map fun e => .list e.unit))], ?_, rfl, rfl⟩
  decide +kernel

theorem tracks_stamped :
    ∀ fields ∈ tracks.maps,
      PropertyMap.legalize nameStamp.hashBy (.str nameStamp.updatedBy) nameStamp.now fields =
        .ok (stampedByName fields) := by
  decide +kernel

/-- The legal tracks are saved under their names, and the edge once for each of its types. -/
theorem tracks_are_composed :
    tracks.IsTold tracksText ∧
    (∀ fields ∈ tracks.maps,
      PropertyMap.legalize nameStamp.hashBy (.str nameStamp.updatedBy) nameStamp.now fields =
        .ok (stampedByName fields)) ∧
    ∃ composed, (tracks.mapMaps stampedByName).written = .ok composed ∧
      (compose nameStamp tracksText).2 = .ok composed ∧
      composed.nodes =
        [Render.savedNode ["alpha", "song"] (stampedByName [("name", .str "A")]),
          Render.savedNode ["beta"] (stampedByName [("name", .str "B")])] ∧
      composed.edges.length = 2 := by
  have hwritten : ((tracks.mapMaps stampedByName).written.map fun composed =>
      (composed.nodes, composed.edges.length)) =
      .ok ([Render.savedNode ["alpha", "song"] (stampedByName [("name", .str "A")]),
        Render.savedNode ["beta"] (stampedByName [("name", .str "B")])], 2) := by
    decide +kernel
  obtain ⟨composed, hwritten, hparts⟩ := map_eq_ok_iff.1 hwritten
  simp only [Prod.mk.injEq] at hparts
  exact ⟨tracks_told, tracks_stamped, composed, hwritten,
    ((compose_document_iff tracks_told tracks_stamped).2 composed hwritten).2 ⟨rfl, Or.inl rfl⟩,
    hparts⟩

/-- Two tracks, the first one with a list of one name. -/
def loneTracks : Document where
  nodes :=
    [⟨[("name", .str "A")], some (.names "alpha" [])⟩, ⟨[("name", .str "B")], some (.name "beta")⟩]
  edges := []

def loneTracksText : String :=
  "\x7b\"nodes\": [[\x7b\"name\": \"A\"\x7d, [\"alpha\"]], [\x7b\"name\": \"B\"\x7d, \"beta\"]]\x7d"

/-- A list of one name on the first track leaves both tracks without names. -/
theorem lone_label_strips_tracks :
    loneTracks.IsTold loneTracksText ∧
    (∀ fields ∈ loneTracks.maps,
      PropertyMap.legalize nameStamp.hashBy (.str nameStamp.updatedBy) nameStamp.now fields =
        .ok (stampedByName fields)) ∧
    ∃ composed stripped, (loneTracks.mapMaps stampedByName).written = .ok composed ∧
      (compose nameStamp loneTracksText).2 = .ok stripped ∧
      composed.nodes =
        [Render.savedNode ["alpha"] (stampedByName [("name", .str "A")]),
          Render.savedNode ["beta"] (stampedByName [("name", .str "B")])] ∧
      stripped.nodes =
        [Render.savedNode [] (stampedByName [("name", .str "A")]),
          Render.savedNode [] (stampedByName [("name", .str "B")])] ∧
      composed.nodes ≠ stripped.nodes := by
  have htold : loneTracks.IsTold loneTracksText := by
    refine ⟨[("nodes", .list (loneTracks.nodes.map fun n => .list n.unit))], ?_, rfl, rfl⟩
    decide +kernel
  have hwritten : ((loneTracks.mapMaps stampedByName).written.map Composed.nodes) =
      .ok [Render.savedNode ["alpha"] (stampedByName [("name", .str "A")]),
        Render.savedNode ["beta"] (stampedByName [("name", .str "B")])] := by
    decide +kernel
  have hcomposed : (compose nameStamp loneTracksText).2.map Composed.nodes =
      .ok [Render.savedNode [] (stampedByName [("name", .str "A")]),
        Render.savedNode [] (stampedByName [("name", .str "B")])] := by
    decide +kernel
  obtain ⟨composed, hwritten, hnodes⟩ := map_eq_ok_iff.1 hwritten
  obtain ⟨stripped, hcomposed, hnames⟩ := map_eq_ok_iff.1 hcomposed
  refine ⟨htold, by decide +kernel, composed, stripped, hwritten, hcomposed, hnodes, hnames, ?_⟩
  rw [hnodes, hnames]
  decide +kernel

/-- A list of one type on the first edge makes loading fail. -/
example :
    (compose nameStamp ("\x7b\"edges\": [[[\x7b\"name\": \"E\"\x7d, [\"next\"]], " ++
      "\"alpha\", \"beta\"]]\x7d")).2.map Composed.edges =
      .error (.compose (.groupCount 2)) := by
  decide +kernel

end Document

end Loader
end CypherBatch

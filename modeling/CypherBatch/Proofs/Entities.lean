import CypherBatch.Entity
import CypherBatch.Proofs.Outcomes
import CypherBatch.Proofs.Units

/-!
# How a group is read

A group is read item by item.  `add_eq_ok_iff` says once what a single item can
do: it says nothing, it fills the free place of the binding, or it fills the free
place of the labels.  Whatever can stand in a group has rank zero, so a group has
rank zero or one, and one exactly when some item of it is no entity part.
-/

namespace CypherBatch

open Outcome

namespace Value

theorem getD_null (items : List Value) (n : Nat) :
    items.getD n .null ∈ items ∨ items.getD n .null = .null := by
  by_cases h : n < items.length
  · exact Or.inl (by simp [h])
  · exact Or.inr (by simp [h])

/-- A list of labels is a label and a list of labels. -/
theorem labelNamesOf?_cons_eq_some
    {v : Value} {rest : List Value} {names : List String} :
    labelNamesOf? (v :: rest) = some names ↔
      ∃ name tail, labelName? v = some name ∧ labelNamesOf? rest = some tail ∧
        names = name :: tail := by
  simp only [labelNamesOf?, Option.bind_eq_bind, Option.bind_eq_some_iff, Option.pure_def,
    Option.some.injEq]
  constructor
  · rintro ⟨name, hname, tail, htail, rfl⟩
    exact ⟨name, tail, hname, htail, rfl⟩
  · rintro ⟨name, tail, hname, htail, rfl⟩
    exact ⟨name, hname, tail, htail, rfl⟩

/-- Only a string gives a label. -/
theorem eq_str_of_labelName?
    {v : Value} {name : String}
    (h : labelName? v = some name) :
    v = .str name ∧ isDistanceText name = false := by
  cases v with
  | str s =>
      by_cases hs : isDistanceText s = true
      · simp [labelName?, hs] at h
      · simp only [labelName?, hs, Bool.false_eq_true, if_false, Option.some.injEq] at h
        subst h
        exact ⟨rfl, by simpa using hs⟩
  | null | bool | int | float | list | map =>
      simp [labelName?] at h

/-- A list of labels is a list of strings. -/
theorem eq_map_str_of_labelNamesOf?
    {items : List Value} {names : List String}
    (h : labelNamesOf? items = some names) :
    items = names.map .str := by
  induction items generalizing names with
  | nil =>
      simp only [labelNamesOf?, Option.some.injEq] at h
      subst h
      rfl
  | cons v rest ih =>
      obtain ⟨name, tail, hname, htail, rfl⟩ := labelNamesOf?_cons_eq_some.1 h
      obtain ⟨rfl, -⟩ := eq_str_of_labelName? hname
      simp [ih htail]

/-- Strings are a list of labels exactly when none is a distance. -/
theorem labelNamesOf?_map_str
    {names names' : List String} :
    labelNamesOf? (names.map .str) = some names' ↔
      names' = names ∧ ∀ name ∈ names, isDistanceText name = false := by
  induction names generalizing names' with
  | nil =>
      simp [labelNamesOf?, @eq_comm _ _ names']
  | cons name rest ih =>
      rw [List.map_cons, labelNamesOf?_cons_eq_some]
      constructor
      · rintro ⟨name', tail, hname, htail, rfl⟩
        obtain ⟨heq, hstar⟩ := eq_str_of_labelName? hname
        obtain ⟨rfl, hstars⟩ := ih.1 htail
        obtain rfl : name = name' := by simpa using heq
        exact ⟨rfl, by simpa [hstar] using hstars⟩
      · rintro ⟨rfl, hstars⟩
        have hname : isDistanceText name = false := hstars name (by simp)
        have hrest := ih.2 ⟨rfl, fun other hother => hstars other (by simp [hother])⟩
        exact ⟨name, rest, by simp [labelName?, hname], hrest, rfl⟩

theorem all_isEntityPart_map_str
    (names : List String) :
    (names.map Value.str).all isEntityPart = true := by
  simp [isEntityPart]

theorem labelNamesOf?_of_not_parts
    {items : List Value} (h : items.all isEntityPart = false) :
    labelNamesOf? items = none := by
  cases hnames : labelNamesOf? items with
  | none =>
      rfl
  | some names =>
      rw [eq_map_str_of_labelNamesOf? hnames, all_isEntityPart_map_str] at h
      cases h

end Value

namespace EntityPart

open Value

/-- The role of a list with items. -/
theorem ofValue_list_cons
    (v : Value) (rest : List Value) :
    ofValue (.list (v :: rest)) =
      match labelNamesOf? (v :: rest) with
      | some names => .labels names
      | none => .unknown := by
  rfl

/-- Whatever plays a role has rank zero. -/
theorem rank_eq_zero_of_role
    {v : Value}
    (h : ofValue v ≠ .unknown) :
    v.rank = 0 := by
  match v with
  | .null | .bool _ | .int _ | .float _ | .str _ | .map _ | .list [] =>
      rfl
  | .list (w :: rest) =>
      rw [ofValue_list_cons] at h
      cases hnames : labelNamesOf? (w :: rest) with
      | none =>
          simp [hnames] at h
      | some names =>
          rw [eq_map_str_of_labelNamesOf? hnames]
          exact rank_list_of_parts (all_isEntityPart_map_str names)

/-- A list that looks like a list of labels is labels or plays no role. -/
theorem ofValue_of_isMultiLabel
    {items : List Value}
    (h : isMultiLabel (.list items) = true) :
    (∃ names, ofValue (.list items) = .labels names) ∨ ofValue (.list items) = .unknown := by
  match items, h with
  | .str s :: w :: rest, _ =>
      rw [ofValue_list_cons]
      cases labelNamesOf? (.str s :: w :: rest) with
      | none =>
          exact Or.inr rfl
      | some names =>
          exact Or.inl ⟨names, rfl⟩

/-- A list with an item that is no entity part plays no role. -/
theorem ofValue_of_not_parts
    {items : List Value}
    (h : items.all isEntityPart = false) :
    ofValue (.list items) = .unknown := by
  cases items with
  | nil =>
      simp at h
  | cons v rest =>
      rw [ofValue_list_cons, labelNamesOf?_of_not_parts h]

/-- The entity of a group that is this part alone. -/
def alone : EntityPart → Entity
  | nothing | unknown => ⟨.free, []⟩
  | binding b => ⟨b, []⟩
  | labels names => ⟨.free, names⟩

def binding? : EntityPart → Option Binding
  | binding b => some b
  | _ => none

def labels? : EntityPart → Option (List String)
  | labels names => some names
  | _ => none

theorem alone_binding (part : EntityPart) :
    part.alone.binding = part.binding?.getD .free := by
  cases part <;> rfl

theorem alone_labels (part : EntityPart) :
    part.alone.labels = part.labels?.getD [] := by
  cases part <;> rfl

end EntityPart

namespace EntityDraft

/-- What one item of a group does to the parts found so far. -/
theorem add_eq_ok_iff
    {group item : Value} {draft next : EntityDraft} :
    add group draft item = .ok next ↔
      (EntityPart.ofValue item = .nothing ∧ next = draft) ∨
      (∃ b, EntityPart.ofValue item = .binding b ∧ draft.binding? = none ∧
        next = { draft with binding? := some b }) ∨
      (∃ names, EntityPart.ofValue item = .labels names ∧ draft.labels? = none ∧
        next = { draft with labels? := some names }) := by
  unfold add
  cases EntityPart.ofValue item with
  | nothing =>
      simp [eq_comm]
  | binding b =>
      cases draft.binding? <;> simp [eq_comm]
  | labels names =>
      cases draft.labels? <;> simp [eq_comm]
  | unknown =>
      simp

/-- An item that is added plays a role. -/
theorem role_of_add_eq_ok
    {group item : Value} {draft next : EntityDraft}
    (h : add group draft item = .ok next) :
    EntityPart.ofValue item ≠ .unknown := by
  obtain ⟨hrole, -⟩ | ⟨b, hrole, -⟩ | ⟨names, hrole, -⟩ := add_eq_ok_iff.1 h <;>
    simp [hrole]

/-- An item without a role is not added. -/
theorem add_of_unknown
    {group item : Value} {draft : EntityDraft}
    (h : EntityPart.ofValue item = .unknown) :
    add group draft item = .error (.noRole item) := by
  simp [add, h]

end EntityDraft

namespace Entity

open Value EntityDraft

/-- All items of a group that is read play a role. -/
theorem role_of_mem_of_foldlM
    {group : Value} {items : List Value} {draft final : EntityDraft}
    (h : items.foldlM (EntityDraft.add group) draft = .ok final) :
    ∀ v ∈ items, EntityPart.ofValue v ≠ .unknown := by
  induction items generalizing draft with
  | nil =>
      simp
  | cons v rest ih =>
      rw [List.foldlM_cons, bind_eq] at h
      obtain ⟨next, hv, hrest⟩ := bind_eq_ok_iff.1 h
      intro w hw
      rcases List.mem_cons.1 hw with rfl | hw
      · exact role_of_add_eq_ok hv
      · exact ih hrest w hw

/-- The binding found is the one binding among the items and the draft. -/
theorem bindings_of_foldlM
    {group : Value} {items : List Value} {draft final : EntityDraft}
    (h : items.foldlM (EntityDraft.add group) draft = .ok final) :
    draft.binding?.toList ++ items.filterMap (fun v => (EntityPart.ofValue v).binding?) =
      final.binding?.toList := by
  induction items generalizing draft with
  | nil =>
      cases h
      simp
  | cons v rest ih =>
      rw [List.foldlM_cons, bind_eq] at h
      obtain ⟨next, hv, hrest⟩ := bind_eq_ok_iff.1 h
      have hfinal := ih hrest
      obtain ⟨hrole, rfl⟩ | ⟨b, hrole, hfree, rfl⟩ | ⟨names, hrole, -, rfl⟩ :=
        add_eq_ok_iff.1 hv
      · simpa [hrole, EntityPart.binding?] using hfinal
      · simpa [hrole, hfree, EntityPart.binding?] using hfinal
      · simpa [hrole, EntityPart.binding?] using hfinal

/-- The labels found are the ones among the items and the draft. -/
theorem labels_of_foldlM
    {group : Value} {items : List Value} {draft final : EntityDraft}
    (h : items.foldlM (EntityDraft.add group) draft = .ok final) :
    draft.labels?.toList ++ items.filterMap (fun v => (EntityPart.ofValue v).labels?) =
      final.labels?.toList := by
  induction items generalizing draft with
  | nil =>
      cases h
      simp
  | cons v rest ih =>
      rw [List.foldlM_cons, bind_eq] at h
      obtain ⟨next, hv, hrest⟩ := bind_eq_ok_iff.1 h
      have hfinal := ih hrest
      obtain ⟨hrole, rfl⟩ | ⟨b, hrole, -, rfl⟩ | ⟨names, hrole, hfree, rfl⟩ :=
        add_eq_ok_iff.1 hv
      · simpa [hrole, EntityPart.labels?] using hfinal
      · simpa [hrole, EntityPart.labels?] using hfinal
      · simpa [hrole, hfree, EntityPart.labels?] using hfinal

/-- One value found in a list is found at its head, or the head gives none. -/
theorem eq_of_filterMap_cons
    {α : Type} {f : Value → Option α} {v : Value} {rest : List Value} {found : Option α}
    (h : (v :: rest).filterMap f = found.toList) :
    found = f v ∧ rest.filterMap f = [] ∨ f v = none ∧ rest.filterMap f = found.toList := by
  cases hv : f v with
  | none =>
      rw [List.filterMap_cons_none hv] at h
      exact Or.inr ⟨rfl, h⟩
  | some y =>
      rw [List.filterMap_cons_some hv] at h
      cases found with
      | none =>
          cases h
      | some z =>
          obtain ⟨rfl, hrest⟩ := List.cons.inj h
          exact Or.inl ⟨rfl, hrest⟩

/-- An entity has the one binding and the one list of labels that its items have. -/
theorem ofItems_eq_ok
    {group : Value} {items : List Value} {x : Entity}
    (h : ofItems group items = .ok x) :
    ∃ (b? : Option Binding) (names? : Option (List String)),
      items.filterMap (fun v => (EntityPart.ofValue v).binding?) = b?.toList ∧
      items.filterMap (fun v => (EntityPart.ofValue v).labels?) = names?.toList ∧
      x = ⟨b?.getD .free, names?.getD []⟩ := by
  obtain ⟨final, hfinal, rfl⟩ := map_eq_ok_iff.1 h
  exact ⟨final.binding?, final.labels?, bindings_of_foldlM hfinal, labels_of_foldlM hfinal, rfl⟩

theorem role_of_mem_of_ofItems
    {group : Value} {items : List Value} {x : Entity}
    (h : ofItems group items = .ok x) :
    ∀ v ∈ items, EntityPart.ofValue v ≠ .unknown := by
  obtain ⟨final, hfinal, -⟩ := map_eq_ok_iff.1 h
  exact role_of_mem_of_foldlM hfinal

/-- Items that play roles are added if no part is given twice. -/
theorem exists_foldlM_eq_ok
    {group : Value} {items : List Value} {draft : EntityDraft}
    (hroles : ∀ v ∈ items, EntityPart.ofValue v ≠ .unknown)
    (hbindings : (draft.binding?.toList ++
      items.filterMap fun v => (EntityPart.ofValue v).binding?).length ≤ 1)
    (hlabels : (draft.labels?.toList ++
      items.filterMap fun v => (EntityPart.ofValue v).labels?).length ≤ 1) :
    ∃ final, items.foldlM (EntityDraft.add group) draft = .ok final := by
  induction items generalizing draft with
  | nil =>
      exact ⟨draft, rfl⟩
  | cons v rest ih =>
      obtain ⟨hrole, hrest⟩ := List.forall_mem_cons.1 hroles
      suffices hadd : ∃ next, EntityDraft.add group draft v = .ok next ∧
          (next.binding?.toList ++
            rest.filterMap fun v => (EntityPart.ofValue v).binding?).length ≤ 1 ∧
          (next.labels?.toList ++
            rest.filterMap fun v => (EntityPart.ofValue v).labels?).length ≤ 1 by
        obtain ⟨next, hnext, hbindings, hlabels⟩ := hadd
        rw [List.foldlM_cons, hnext]
        exact ih hrest hbindings hlabels
      -- the place that the item fills is free, because no other one fits behind it
      cases hpart : EntityPart.ofValue v with
      | unknown =>
          exact absurd hpart hrole
      | nothing =>
          rw [List.filterMap_cons_none (by rw [hpart]; rfl)] at hbindings hlabels
          exact ⟨draft, add_eq_ok_iff.2 (Or.inl ⟨hpart, rfl⟩), hbindings, hlabels⟩
      | binding b =>
          rw [List.filterMap_cons_some (by rw [hpart]; rfl)] at hbindings
          rw [List.filterMap_cons_none (by rw [hpart]; rfl)] at hlabels
          have hfree : draft.binding? = none := by
            rw [List.length_append, List.length_cons] at hbindings
            exact Option.toList_eq_nil_iff.1 (List.length_eq_zero_iff.1 (by omega))
          refine ⟨_, add_eq_ok_iff.2 (Or.inr (Or.inl ⟨b, hpart, hfree, rfl⟩)), ?_, hlabels⟩
          simpa [hfree] using hbindings
      | labels names =>
          rw [List.filterMap_cons_none (by rw [hpart]; rfl)] at hbindings
          rw [List.filterMap_cons_some (by rw [hpart]; rfl)] at hlabels
          have hfree : draft.labels? = none := by
            rw [List.length_append, List.length_cons] at hlabels
            exact Option.toList_eq_nil_iff.1 (List.length_eq_zero_iff.1 (by omega))
          refine ⟨_, add_eq_ok_iff.2 (Or.inr (Or.inr ⟨names, hpart, hfree, rfl⟩)), hbindings, ?_⟩
          simpa [hfree] using hlabels

/-- Items describe an entity exactly when all play roles, at most one binds and one labels it. -/
theorem ofItems_eq_ok_iff {group : Value} {items : List Value} {x : Entity} :
    ofItems group items = .ok x ↔
      (∀ v ∈ items, EntityPart.ofValue v ≠ .unknown) ∧
        ∃ (b? : Option Binding) (names? : Option (List String)),
          items.filterMap (fun v => (EntityPart.ofValue v).binding?) = b?.toList ∧
          items.filterMap (fun v => (EntityPart.ofValue v).labels?) = names?.toList ∧
          x = ⟨b?.getD .free, names?.getD []⟩ := by
  constructor
  · exact fun h => ⟨role_of_mem_of_ofItems h, ofItems_eq_ok h⟩
  · rintro ⟨hroles, b?, names?, hbindings, hlabels, rfl⟩
    obtain ⟨final, hfinal⟩ :
        ∃ final, items.foldlM (EntityDraft.add group) .empty = .ok final := by
      refine exists_foldlM_eq_ok hroles ?_ ?_
      · simp [EntityDraft.empty, hbindings, Option.length_toList_le]
      · simp [EntityDraft.empty, hlabels, Option.length_toList_le]
    have hbinding : b? = final.binding? := by
      have hfound := bindings_of_foldlM hfinal
      rw [hbindings] at hfound
      simpa [EntityDraft.empty] using congrArg List.head? hfound
    have hlabel : names? = final.labels? := by
      have hfound := labels_of_foldlM hfinal
      rw [hlabels] at hfound
      simpa [EntityDraft.empty] using congrArg List.head? hfound
    refine map_eq_ok_iff.2 ⟨final, hfinal, ?_⟩
    rw [hbinding, hlabel]
    rfl

/-- A group whose first item plays no role is refused. -/
theorem ofItems_of_unknown
    {group v : Value} {rest : List Value}
    (h : EntityPart.ofValue v = .unknown) :
    ofItems group (v :: rest) = .error (.noRole v) := by
  simp [ofItems, List.foldlM_cons, add_of_unknown h]

/-- A list is read item by item unless all of its items are labels. -/
theorem ofGroup_list_of_labelNamesOf?_eq_none
    {items : List Value}
    (h : labelNamesOf? items = none) :
    ofGroup (.list items) = ofItems (.list items) items := by
  match items with
  | [] | [_] =>
      rfl
  | v :: w :: rest =>
      simp [ofGroup, h]

/-- A group is read item by item, or it is a list of labels and nothing else. -/
theorem ofGroup_cases (group : Value) :
    ofGroup group = ofItems group group.spliced ∨
      ∃ names, group = .list (names.map .str) ∧ (∀ name ∈ names, isDistanceText name = false) ∧
        ofGroup group = .ok ⟨.free, names⟩ := by
  match group with
  | .null | .bool _ | .int _ | .float _ | .str _ | .map _ | .list [] | .list [_] =>
      exact Or.inl rfl
  | .list (v :: w :: rest) =>
      cases hnames : labelNamesOf? (v :: w :: rest) with
      | none =>
          exact Or.inl (ofGroup_list_of_labelNamesOf?_eq_none hnames)
      | some names =>
          have hstr := eq_map_str_of_labelNamesOf? hnames
          have hstars := hnames
          rw [hstr, labelNamesOf?_map_str] at hstars
          exact Or.inr ⟨names, by rw [hstr], hstars.2, by simp [ofGroup, hnames]⟩

/-- A group that binds an entity is read item by item. -/
theorem ofItems_spliced_of_ofGroup
    {group : Value} {x : Entity} (h : ofGroup group = .ok x) :
    x.binding = .free ∨ ofItems group group.spliced = .ok x := by
  rcases ofGroup_cases group with hitems | ⟨names, -, -, hnames⟩
  · exact Or.inr (by rwa [← hitems])
  · rw [hnames] at h
    obtain rfl := Except.ok.inj h
    exact Or.inl rfl

/-- An entity is bound by the item of its group that binds it. -/
theorem binding_of_role
    {group v : Value} {x : Entity} {b : Binding} (h : ofGroup group = .ok x)
    (hmem : v ∈ group.spliced) (hrole : EntityPart.ofValue v = .binding b) :
    x.binding = b := by
  rcases ofGroup_cases group with hitems | ⟨names, rfl, hstars, -⟩
  · rw [hitems] at h
    obtain ⟨b?, names?, hbindings, -, rfl⟩ := ofItems_eq_ok h
    have hbinding : b ∈ b?.toList := by
      rw [← hbindings]
      exact List.mem_filterMap.2 ⟨v, hmem, by rw [hrole]; rfl⟩
    rw [Option.mem_toList] at hbinding
    simp [hbinding]
  · obtain ⟨name, hname, rfl⟩ := List.mem_map.1 hmem
    simp [EntityPart.ofValue, hstars name hname] at hrole

/-- A list that begins with a list is no list of labels. -/
@[simp] theorem labelNamesOf?_cons_list
    (items rest : List Value) :
    labelNamesOf? (.list items :: rest) = none := by
  simp [labelNamesOf?, labelName?]

/-- An item that plays a role can stand as a group alone. -/
theorem ofGroup_of_role
    {v : Value} (h : EntityPart.ofValue v ≠ .unknown) :
    ofGroup v = .ok (EntityPart.ofValue v).alone := by
  match v with
  | .null | .map _ | .list [] =>
      rfl
  | .bool _ | .int _ | .float _ =>
      exact absurd rfl h
  | .str s =>
      by_cases hstar : isDistanceText s = true
      · simp [ofGroup, ofItems, List.foldlM_cons, EntityDraft.add, EntityPart.ofValue, hstar,
          EntityDraft.empty, EntityDraft.entity, EntityPart.alone]
      · simp [ofGroup, ofItems, List.foldlM_cons, EntityDraft.add, EntityPart.ofValue, hstar,
          EntityDraft.empty, EntityDraft.entity, EntityPart.alone]
  | .list (v :: rest) =>
      rw [EntityPart.ofValue_list_cons] at h ⊢
      cases hnames : labelNamesOf? (v :: rest) with
      | none =>
          simp [hnames] at h
      | some names =>
          cases rest with
          | nil =>
              obtain ⟨name, tail, hname, htail, rfl⟩ := labelNamesOf?_cons_eq_some.1 hnames
              obtain ⟨rfl, hstar⟩ := eq_str_of_labelName? hname
              obtain rfl : [] = tail := by simpa [labelNamesOf?] using htail
              simp [ofGroup, ofItems, List.foldlM_cons, EntityDraft.add, EntityPart.ofValue, hstar,
                EntityDraft.empty, EntityDraft.entity, EntityPart.alone]
          | cons w rest =>
              simp [ofGroup, hnames, EntityPart.alone]

/-- A list of one item describes what the item describes. -/
theorem ofItems_singleton
    {group v : Value} {x : Entity} :
    ofItems group [v] = .ok x ↔
      EntityPart.ofValue v ≠ .unknown ∧ x = (EntityPart.ofValue v).alone := by
  simp only [ofItems, List.foldlM_cons, List.foldlM_nil, bind_eq, pure_eq, EntityDraft.add,
    EntityDraft.empty]
  cases EntityPart.ofValue v with
  | nothing | binding | labels =>
      simpa [EntityPart.alone, EntityDraft.entity] using eq_comm
  | unknown =>
      simp

/-- All items of a list that is read play a role. -/
theorem role_of_mem_of_ofGroup
    {items : List Value} {x : Entity}
    (h : ofGroup (.list items) = .ok x) :
    ∀ v ∈ items, EntityPart.ofValue v ≠ .unknown := by
  cases hnames : labelNamesOf? items with
  | none =>
      rw [ofGroup_list_of_labelNamesOf?_eq_none hnames] at h
      exact role_of_mem_of_ofItems h
  | some names =>
      obtain rfl := eq_map_str_of_labelNamesOf? hnames
      obtain ⟨-, hstars⟩ := labelNamesOf?_map_str.1 hnames
      intro v hv
      obtain ⟨name, hname, rfl⟩ := List.mem_map.1 hv
      simp [EntityPart.ofValue, hstars name hname]

/-- A group that is read has rank zero or one. -/
theorem rank_le_one_of_ofGroup
    {group : Value} {x : Entity} (h : ofGroup group = .ok x) :
    group.rank ≤ 1 := by
  match group with
  | .null | .bool _ | .int _ | .float _ | .str _ | .map _ | .list [] =>
      exact Nat.zero_le 1
  | .list (v :: rest) =>
      have hv : v.rank = 0 :=
        EntityPart.rank_eq_zero_of_role (role_of_mem_of_ofGroup h v (by simp))
      cases hparts : (v :: rest).all isEntityPart with
      | true =>
          rw [rank_list_of_parts hparts]
          exact Nat.zero_le 1
      | false =>
          rw [rank_list_cons_of_not_parts hparts, hv]

end Entity
end CypherBatch

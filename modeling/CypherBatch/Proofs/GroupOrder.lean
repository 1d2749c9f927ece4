import CypherBatch.Proofs.ClauseOrder
import CypherBatch.Proofs.Entities

/-!
# Parts of a group in any order

The parts of an entity are found by what they are and not by where they stand.  So the items
of a group describe one entity in any order, or are refused in any order, and items that say
nothing may stand anywhere among them.

There is one group that is not read item by item: two or more labels and nothing else are
one list of labels, in the order given.  Null is no label.  Such a list with a null among its
items is therefore read item by item after all, and refused for its second label.
-/

namespace CypherBatch

open Outcome

namespace Value

/-- Are these two or more items, and each of them a label by itself? -/
def AreLabels (items : List Value) : Prop :=
  2 ≤ items.length ∧ ∀ v ∈ items, ∃ name, v = .str name ∧ isDistanceText name = false

theorem areLabels_iff_of_perm {items items' : List Value} (h : items.Perm items') :
    AreLabels items ↔ AreLabels items' := by
  unfold AreLabels
  rw [h.length_eq]
  exact and_congr_right fun _ => forall_congr' fun v => by rw [h.mem_iff]

/-- A list of labels gives the names of its items. -/
theorem exists_labelNamesOf? {items : List Value} (h : AreLabels items) :
    ∃ names, labelNamesOf? items = some names ∧ items = names.map .str := by
  obtain ⟨-, hitems⟩ := h
  induction items with
  | nil =>
      exact ⟨[], rfl, rfl⟩
  | cons v rest ih =>
      obtain ⟨⟨name, rfl, hstar⟩, hrest⟩ := List.forall_mem_cons.1 hitems
      obtain ⟨names, hnames, rfl⟩ := ih hrest
      have hname : labelName? (.str name) = some name := by
        simp [labelName?, hstar]
      exact ⟨name :: names, labelNamesOf?_cons_eq_some.2 ⟨name, names, hname, hnames, rfl⟩, rfl⟩

/-- The items that are not null. -/
def withoutNulls (items : List Value) : List Value :=
  items.filter (· ≠ .null)

theorem mem_withoutNulls_iff {items : List Value} {v : Value} :
    v ∈ withoutNulls items ↔ v ∈ items ∧ v ≠ .null := by
  simp [withoutNulls]

theorem withoutNulls_eq_self {items : List Value} (h : .null ∉ items) :
    withoutNulls items = items := by
  refine List.filter_eq_self.2 fun v hv => ?_
  simpa using fun heq : v = .null => h (heq ▸ hv)

/-- Null is no label. -/
theorem not_areLabels_of_null_mem {items : List Value} (h : .null ∈ items) :
    ¬ AreLabels items := by
  rintro ⟨-, hitems⟩
  obtain ⟨name, hname, -⟩ := hitems _ h
  cases hname

/-- What nulls do not give is found without them. -/
theorem filterMap_withoutNulls
    {α : Type} {f : Value → Option α} (hnull : f .null = none) (items : List Value) :
    (withoutNulls items).filterMap f = items.filterMap f := by
  rw [withoutNulls, List.filterMap_filter]
  congr 1
  funext v
  by_cases hv : v = .null
  · simp [hv, hnull]
  · simp [hv]

end Value

namespace Entity

open Value

section Order

variable {items items' : List Value} {x : Entity}

/-- Two or more labels are read as one list of labels. -/
theorem ofGroup_of_areLabels (h : AreLabels items) :
    ∃ names, items = names.map .str ∧ ofGroup (.list items) = .ok ⟨.free, names⟩ := by
  obtain ⟨names, hnames, hstr⟩ := exists_labelNamesOf? h
  refine ⟨names, hstr, ?_⟩
  match items, h.1 with
  | v :: w :: rest, _ =>
      simp [ofGroup, hnames]

/-- Any other list is read item by item. -/
theorem ofGroup_of_not_areLabels (h : ¬ AreLabels items) :
    ofGroup (.list items) = ofItems (.list items) items := by
  rcases ofGroup_cases (.list items) with hitems | ⟨names, hstr, hstars, -⟩
  · exact hitems
  · obtain rfl := Value.list.inj hstr
    match names with
    | [] | [_] =>
        rfl
    | first :: second :: rest =>
        refine absurd ⟨by simp, fun v hv => ?_⟩ h
        obtain ⟨name, hname, rfl⟩ := List.mem_map.1 hv
        exact ⟨name, rfl, hstars name hname⟩

/-- Items describe an entity in any order, and the same one. -/
theorem ofItems_eq_ok_iff_of_perm {group group' : Value} (h : items.Perm items') :
    ofItems group items = .ok x ↔ ofItems group' items' = .ok x := by
  rw [ofItems_eq_ok_iff, ofItems_eq_ok_iff]
  refine and_congr (forall_congr' fun v => by rw [h.mem_iff]) ?_
  refine exists_congr fun b? => exists_congr fun names? => ?_
  rw [ClauseSet.toList_eq_iff_of_perm (h.filterMap _),
    ClauseSet.toList_eq_iff_of_perm (h.filterMap _)]

/-- Labels that are read item by item are refused: the second one is one too many. -/
theorem exists_error_of_areLabels (h : AreLabels items) (group : Value) :
    ∃ cause, ofItems group items = .error cause := by
  cases hx : ofItems group items with
  | error cause =>
      exact ⟨cause, rfl⟩
  | ok x =>
      obtain ⟨-, b?, names?, -, hlabels, -⟩ := ofItems_eq_ok_iff.1 hx
      have hall : ∀ v ∈ items, ((EntityPart.ofValue v).labels?).isSome = true := by
        intro v hv
        obtain ⟨name, rfl, hstar⟩ := h.2 v hv
        simp [EntityPart.ofValue, hstar, EntityPart.labels?]
      have hcount : (items.filterMap fun v => (EntityPart.ofValue v).labels?).length =
          items.length := by
        rw [List.length_filterMap_eq_countP]
        exact List.countP_eq_length.2 hall
      have hone : names?.toList.length ≤ 1 := Option.length_toList_le
      have htwo := h.1
      rw [hlabels] at hcount
      omega

/-- Nulls among items that are read one by one say nothing. -/
theorem ofItems_withoutNulls {group group' : Value} :
    ofItems group (withoutNulls items) = .ok x ↔ ofItems group' items = .ok x := by
  rw [ofItems_eq_ok_iff, ofItems_eq_ok_iff, filterMap_withoutNulls rfl, filterMap_withoutNulls rfl]
  refine and_congr_left fun _ => ⟨fun h v hv => ?_, fun h v hv => ?_⟩
  · by_cases hnull : v = .null
    · subst hnull
      simp [EntityPart.ofValue]
    · exact h v (mem_withoutNulls_iff.2 ⟨hv, hnull⟩)
  · exact h v (mem_withoutNulls_iff.1 hv).1

end Order

/-- The parts of a group may stand in any order.

They are refused in both orders or read as the same properties, the same distance and the
same labels; the labels of a group that is a list of labels are its items, in the order in
which these stand.  What is read has properties or a distance, but not both: it has whatever
of these is among the items.
-/
theorem parts_stand_anywhere {items items' : List Value} (h : items.Perm items') :
    ((∃ cause cause', ofGroup (.list items) = .error cause ∧
        ofGroup (.list items') = .error cause') ∨
      ∃ x x', ofGroup (.list items) = .ok x ∧ ofGroup (.list items') = .ok x' ∧
        x.props? = x'.props? ∧ x.distance? = x'.distance? ∧
        (¬ AreLabels items → x.labels = x'.labels) ∧
        (AreLabels items → x.labels.map .str = items ∧ x'.labels.map .str = items')) ∧
    ∀ x, ofGroup (.list items) = .ok x →
      (x.props? = none ∨ x.distance? = none) ∧
      (∀ fields, .map fields ∈ items → x.props? = some fields) ∧
      ∀ text, .str text ∈ items → isDistanceText text = true → x.distance? = some text := by
  constructor
  · by_cases hlabels : AreLabels items
    · obtain ⟨names, hnames, hx⟩ := ofGroup_of_areLabels hlabels
      obtain ⟨names', hnames', hx'⟩ :=
        ofGroup_of_areLabels ((areLabels_iff_of_perm h).1 hlabels)
      exact Or.inr ⟨_, _, hx, hx', rfl, rfl, fun hnot => absurd hlabels hnot,
        fun _ => ⟨hnames.symm, hnames'.symm⟩⟩
    · rw [ofGroup_of_not_areLabels hlabels,
        ofGroup_of_not_areLabels (mt (areLabels_iff_of_perm h).2 hlabels)]
      cases hx : ofItems (.list items) items with
      | ok x =>
          exact Or.inr ⟨x, x, rfl, (ofItems_eq_ok_iff_of_perm h).1 hx, rfl, rfl, fun _ => rfl,
            fun hall => absurd hall hlabels⟩
      | error cause =>
          cases hx' : ofItems (.list items') items' with
          | ok x =>
              rw [(ofItems_eq_ok_iff_of_perm h).2 hx'] at hx
              cases hx
          | error cause' =>
              exact Or.inl ⟨cause, cause', rfl, rfl⟩
  · intro x hx
    refine ⟨?_, fun fields hmem => ?_, fun text hmem hstar => ?_⟩
    · obtain ⟨binding, labels⟩ := x
      cases binding with
      | free | props =>
          exact Or.inr rfl
      | distance =>
          exact Or.inl rfl
    · rw [props?, binding_of_role hx hmem rfl]
    · have hrole : EntityPart.ofValue (.str text) = .binding (.distance text) := by
        simp [EntityPart.ofValue, hstar]
      rw [distance?, binding_of_role hx hmem hrole]

/-- A node with a gap between its parts. -/
def scattered : List Value :=
  [.list [.str "alpha", .str "beta"], .null, .map [("k", .int 1)]]

/-- In another order, its property map is found in front and its labels at the end. -/
theorem scattered_parts_are_found :
    scattered.Perm scattered.reverse ∧
    (∃ x, ofGroup (.list scattered.reverse) = .ok x ∧ x.props? = some [("k", .int 1)] ∧
      x.labels = ["alpha", "beta"]) ∧
    [Value.str "next", .str "after"].Perm [.str "after", .str "next"] ∧
    ∃ x, ofGroup (.list [.str "after", .str "next"]) = .ok x ∧ x.labels = ["after", "next"] := by
  have hread : ofGroup (.list scattered) = .ok ⟨.props [("k", .int 1)], ["alpha", "beta"]⟩ := by
    decide +kernel
  have hmixed : ¬ AreLabels scattered := not_areLabels_of_null_mem (by decide)
  have hlabels : AreLabels [.str "next", .str "after"] := by
    refine ⟨by decide, fun v hv => ?_⟩
    simp only [List.mem_cons, List.not_mem_nil, or_false] at hv
    rcases hv with rfl | rfl
    · exact ⟨"next", rfl, by decide⟩
    · exact ⟨"after", rfl, by decide⟩
  have hswap : [Value.str "next", .str "after"].Perm [.str "after", .str "next"] :=
    List.Perm.swap _ _ _
  refine ⟨scattered.reverse_perm.symm, ?_, hswap, ?_⟩
  · obtain ⟨⟨cause, -, hcause, -⟩ | ⟨x, x', hx, hx', hprops, -, hsame, -⟩, -⟩ :=
      parts_stand_anywhere scattered.reverse_perm.symm
    · cases hread.symm.trans hcause
    · obtain rfl := Except.ok.inj (hx.symm.trans hread)
      exact ⟨x', hx', hprops.symm, (hsame hmixed).symm⟩
  · obtain ⟨⟨cause, -, hcause, -⟩ | ⟨x, x', -, hx', -, -, -, hnames⟩, -⟩ :=
      parts_stand_anywhere hswap
    · cases hcause
    · have hstr : x'.labels.map Value.str = ["after", "next"].map .str := (hnames hlabels).2
      exact ⟨x', hx', List.map_injective_iff.2 (fun a b h => Value.str.inj h) hstr⟩

/-- Nulls among the items of a group are ignored, but for those among two or more labels.

The group is refused or read as without the nulls exactly if there are none, or what is left
is not a list of labels.
-/
theorem nulls_are_ignored_iff (items : List Value) :
    (ofGroup (.list items)).toOption = (ofGroup (.list (withoutNulls items))).toOption ↔
      .null ∉ items ∨ ¬ AreLabels (withoutNulls items) := by
  by_cases hnull : .null ∈ items
  · rw [ofGroup_of_not_areLabels (not_areLabels_of_null_mem hnull),
      or_iff_right (not_not_intro hnull)]
    constructor
    · intro hsame hlabels
      obtain ⟨names, -, hx⟩ := ofGroup_of_areLabels hlabels
      obtain ⟨cause, hcause⟩ := exists_error_of_areLabels hlabels (.list items)
      cases hread : ofItems (.list items) items with
      | ok y =>
          rw [ofItems_withoutNulls.2 hread] at hcause
          cases hcause
      | error e =>
          rw [hx, hread] at hsame
          cases hsame
    · intro hlabels
      rw [ofGroup_of_not_areLabels hlabels]
      refine Option.ext fun x => ?_
      rw [toOption_eq_some_iff, toOption_eq_some_iff, ofItems_withoutNulls]
  · rw [withoutNulls_eq_self hnull]
    exact iff_of_true rfl (Or.inl hnull)

/-- Two labels with a gap between them. -/
def gappedLabels : List Value :=
  [.str "a", .null, .str "b"]

/-- They are refused, though they are two labels without the gap. -/
theorem gap_parts_labels :
    ofGroup (.list gappedLabels) = .error (.secondLabel (.list gappedLabels)) ∧
    ofGroup (.list (withoutNulls gappedLabels)) = .ok ⟨.free, ["a", "b"]⟩ ∧
    (ofGroup (.list gappedLabels)).toOption ≠
      (ofGroup (.list (withoutNulls gappedLabels))).toOption := by
  decide +kernel

end Entity
end CypherBatch

import CypherBatch.Proofs.Appending
import CypherBatch.Proofs.Failures
import CypherBatch.Proofs.TypeExpansion

/-!
# What the alternatives of a read leave alone

A read that names several types asks for any of them: the colons between the labels
of the first token of its text become bars.  Nothing else of the text changes, nor do
the parameters.  But the first token need not be the edge of the read.  A label, a key
or a clause may hold what looks like one, and a read of a single node has no edge.

`Read` is what a read is written from, and `Read.Kept` says that a statement differs
from it in the types of its own edge at most.  Since all that changes stands between
the first and the last label of the token, this is so exactly when these colons stand
among the types of the edge, or when there are none.
-/

namespace CypherBatch
namespace EdgeType

/-- What stands between the first and the last of several labels, with a mark between two labels. -/
def between (mark : Char) (labels : List (List Char)) : List Char :=
  labels.flatMap (fun label => mark :: label) ++ [mark]

namespace Token

/-- The text up to the end of the first label of a token. -/
def front (token : Token) : List Char :=
  token.before ++ '[' :: 'e' :: ':' :: token.labels.headD []

/-- The text from the last label of a token on. -/
def back (token : Token) : List Char :=
  token.labels.getLastD [] ++ token.after

theorem back_of_labels_eq
    {token : Token} {first last : List Char} {middle : List (List Char)}
    (h : token.labels = first :: (middle ++ [last])) :
    token.back = last ++ token.after := by
  have hlast : token.labels.getLast? = some last := by
    rw [h, ← List.cons_append, List.getLast?_concat]
  rw [back, List.getLastD_eq_getLast?, hlast, Option.getD_some]

end Token

section Marks

variable {mark other : Char} {first last : List Char} {labels : List (List Char)}

theorem labelRun_between :
    labelRun (first :: (labels ++ [last])) = ':' :: (first ++ (between ':' labels ++ last)) := by
  simp [labelRun, between]

theorem alternation_between :
    alternation (first :: (labels ++ [last])) = first ++ (between '|' labels ++ last) := by
  induction labels generalizing first with
  | nil =>
      rfl
  | cons label labels ih =>
      rw [List.cons_append, alternation, ih]
      simp [between]

theorem exists_between_eq_cons (mark : Char) (labels : List (List Char)) :
    ∃ cs, between mark labels = mark :: cs := by
  cases labels with
  | nil =>
      exact ⟨[], rfl⟩
  | cons label labels =>
      exact ⟨label ++ between mark labels, by simp [between]⟩

/-- A beginning of two texts that part at a mark ends in front of the mark. -/
theorem prefix_of_marks
    {a p x y : List Char} (hne : mark ≠ other)
    (h : a <+: p ++ mark :: x) (h' : a <+: p ++ other :: y) :
    a <+: p := by
  rcases List.prefix_or_prefix_of_prefix h (List.prefix_append p _) with hp | ⟨z, rfl⟩
  · exact hp
  · rw [List.prefix_append_right_inj] at h h'
    cases z with
    | nil =>
        simp
    | cons c z =>
        exact absurd ((List.cons_prefix_cons.1 h).1.symm.trans (List.cons_prefix_cons.1 h').1) hne

/-- An end of two texts that join behind a mark begins behind the mark. -/
theorem suffix_of_marks
    {a s x y : List Char} (hne : mark ≠ other)
    (h : a <:+ x ++ mark :: s) (h' : a <:+ y ++ other :: s) :
    a <:+ s := by
  rw [← List.reverse_prefix] at h h' ⊢
  simp only [List.reverse_append, List.reverse_cons, List.append_assoc, List.singleton_append]
    at h h'
  exact prefix_of_marks hne h h'

/--
Marks between labels are changed between a lead and a tail exactly when the lead ends
no later than the first label, and the tail begins no sooner than the last.
-/
theorem exists_types_iff
    {front back lead tail types : List Char}
    (htext : front ++ (between ':' labels ++ back) = lead ++ (types ++ tail)) :
    (∃ types', front ++ (between '|' labels ++ back) = lead ++ (types' ++ tail)) ↔
      lead <+: front ∧ tail <:+ back := by
  constructor
  · rintro ⟨types', htext'⟩
    constructor
    · obtain ⟨x, hx⟩ := exists_between_eq_cons ':' labels
      obtain ⟨y, hy⟩ := exists_between_eq_cons '|' labels
      have h : lead <+: front ++ ':' :: (x ++ back) := ⟨types ++ tail, by rw [← htext, hx]; rfl⟩
      have h' : lead <+: front ++ '|' :: (y ++ back) :=
        ⟨types' ++ tail, by rw [← htext', hy]; rfl⟩
      exact prefix_of_marks (by decide) h h'
    · have h : tail <:+ (front ++ labels.flatMap (fun label => ':' :: label)) ++ ':' :: back :=
        ⟨lead ++ types, by simpa [between] using htext.symm⟩
      have h' : tail <:+ (front ++ labels.flatMap (fun label => '|' :: label)) ++ '|' :: back :=
        ⟨lead ++ types', by simpa [between] using htext'.symm⟩
      exact suffix_of_marks (by decide) h h'
  · rintro ⟨⟨x, rfl⟩, ⟨y, rfl⟩⟩
    exact ⟨x ++ (between '|' labels ++ y), by simp⟩

end Marks

section Expansion

variable {s : Statement} {token : Token}

/-- Several labels of a token are a first one, a last one and those between. -/
theorem exists_of_two_le {labels : List (List Char)} (h : 2 ≤ labels.length) :
    ∃ first middle last, labels = first :: (middle ++ [last]) := by
  match labels, h with
  | first :: next :: rest, _ =>
      obtain ⟨middle, last, hrest⟩ : ∃ middle last, next :: rest = middle ++ [last] :=
        ⟨(next :: rest).dropLast, (next :: rest).getLast (by simp),
          (List.dropLast_append_getLast (by simp)).symm⟩
      exact ⟨first, middle, last, by rw [hrest]⟩

/-- A read stays as it is, or has bars for the colons between the labels of its first token. -/
theorem expand_relaxed_marks (s : Statement) :
    (expand .relaxed s = .ok [s] ∧
        ∀ token, Token.find? s.query.toList = some token → token.labels.length = 1) ∨
      ∃ token middle, Token.find? s.query.toList = some token ∧ 2 ≤ token.labels.length ∧
        s.query.toList = token.front ++ (between ':' middle ++ token.back) ∧
        expand .relaxed s = .ok [{ s with
          query := String.ofList (token.front ++ (between '|' middle ++ token.back)) }] := by
  cases hfind : Token.find? s.query.toList with
  | none =>
      exact Or.inl ⟨by simp [expand, hfind], by simp⟩
  | some token =>
      by_cases hone : token.labels.length = 1
      · exact Or.inl ⟨by simp [expand, hfind, hone], by simpa using hone⟩
      · obtain ⟨hlabels, htext, -⟩ := Token.find?_spec hfind
        have htwo : 2 ≤ token.labels.length := by
          have hpos := List.length_pos_of_ne_nil hlabels
          omega
        obtain ⟨first, middle, last, hsplit⟩ := exists_of_two_le htwo
        refine Or.inr ⟨token, middle, rfl, htwo, ?_, ?_⟩
        · rw [htext, Token.back_of_labels_eq hsplit, hsplit, labelRun_between]
          simp [Token.front, hsplit]
        · simp only [expand, hfind, hone, if_false]
          rw [Token.back_of_labels_eq hsplit]
          simp [Token.replaced, hsplit, alternation_between, Token.front]

end Expansion

end EdgeType

namespace Render

open EdgeType

/--
What a read is written from: one node, or an edge between two nodes, perhaps as part
of a path; and the text in which the read ends.
-/
inductive Read where
  | node (a : Entity) (ending : String)
  | edge (path : Option String) (a e b : Entity) (ending : String)

namespace Read

def statement : Read → Statement
  | node a ending =>
      { query := "MATCH " ++ Pattern.node .source a ++ " " ++ ending
        params := Pattern.params [(.source, a)] }
  | edge path a e b ending =>
      { query := "MATCH " ++ Pattern.node .source a ++ graphBody path e b ++ " " ++ ending
        params := Pattern.params [(.source, a), (.edge, e), (.target, b)] }

/-- The text of a read up to the bracket of its edge. -/
def lead (path : Option String) (a b : Entity) : List Char :=
  match path with
  | none => ("MATCH " ++ Pattern.node .source a ++ "-").toList
  | some keyword =>
      ("MATCH " ++ Pattern.node .source a ++ ", " ++ Pattern.node .target b ++ ", p=" ++
        keyword ++ "((a)-").toList

/-- The text of a read behind the types of its edge. -/
def tail (path : Option String) (e b : Entity) (ending : String) : List Char :=
  Pattern.rest .edge e ++
    match path with
    | none => ("]->" ++ Pattern.node .target b ++ " " ++ ending).toList
    | some _ => ("]->(b)) " ++ ending).toList

/-- The text of a read of an edge is the lead, the bracket with its types, and the tail. -/
theorem toList_query_edge (path : Option String) (a e b : Entity) (ending : String) :
    (edge path a e b ending).statement.query.toList =
      lead path a b ++
        '[' :: 'e' :: ((Name.labelText e.labels).toList ++ tail path e b ending) := by
  cases path with
  | none =>
      simp [statement, graphBody, lead, tail, Pattern.edge, Pattern.toList_body, Facet.varName]
  | some keyword =>
      simp [statement, graphBody, lead, tail, Pattern.edge, Pattern.toList_body, Facet.varName]

/--
Does a statement differ from that of a read in the types of the edge at most?  Where
the read has no edge, it does not differ.
-/
def Kept (r : Read) (t : Statement) : Prop :=
  match r with
  | node _ _ => t = r.statement
  | edge path a e b ending =>
      t.params = r.statement.params ∧
        ∃ types, t.query.toList = lead path a b ++ '[' :: 'e' :: (types ++ tail path e b ending)

/--
Do all colons between the labels of a token stand among the types of the edge?  The
first label then ends there or behind, and the last one begins there or in front.
-/
def Encloses (r : Read) (token : Token) : Prop :=
  match r with
  | node _ _ => False
  | edge path a e b ending =>
      lead path a b ++ ['[', 'e'] <+: token.front ∧ tail path e b ending <:+ token.back

theorem kept_statement (r : Read) : r.Kept r.statement := by
  cases r with
  | node a ending =>
      rfl
  | edge path a e b ending =>
      exact ⟨rfl, _, toList_query_edge path a e b ending⟩

/-- Bars for the colons between labels leave a read alone exactly if it encloses the colons. -/
theorem kept_iff_encloses
    {r : Read} {token : Token} {middle : List (List Char)}
    (htext : r.statement.query.toList = token.front ++ (between ':' middle ++ token.back)) :
    r.Kept { r.statement with
        query := String.ofList (token.front ++ (between '|' middle ++ token.back)) } ↔
      r.Encloses token := by
  cases r with
  | node a ending =>
      refine iff_of_false (fun hkept => ?_) id
      have hquery := congrArg (fun t => t.query.toList) hkept
      obtain ⟨x, hx⟩ := exists_between_eq_cons ':' middle
      obtain ⟨y, hy⟩ := exists_between_eq_cons '|' middle
      simp only [htext, hx, hy, String.toList_ofList, List.append_cancel_left_eq,
        List.cons_append, List.cons.injEq] at hquery
      exact absurd hquery.1 (by decide)
  | edge path a e b ending =>
      rw [toList_query_edge] at htext
      have hsplit : token.front ++ (between ':' middle ++ token.back) =
          (lead path a b ++ ['[', 'e']) ++
            ((Name.labelText e.labels).toList ++ tail path e b ending) := by
        simpa using htext.symm
      rw [Kept, Encloses, ← exists_types_iff hsplit]
      simp

/-- Behind the types of an edge its properties begin with a space, or the bracket is closed. -/
theorem head_tail
    {path : Option String} {e b : Entity} {ending : String} {c : Char}
    (h : c ∈ (tail path e b ending).head?) :
    Text.isWord c = false ∧ c ≠ ':' := by
  have hc : c = ' ' ∨ c = ']' := by
    rcases Pattern.rest_cases .edge e with hrest | ⟨cs, hrest⟩
    · cases path <;> simp [tail, hrest] at h <;> exact Or.inr h.symm
    · exact Or.inl (by simpa [tail, hrest, eq_comm] using h)
  rcases hc with rfl | rfl <;> decide

/--
A read whose edge has types that can all be read back, and no bracket in front of it,
encloses its first token, whatever its clauses are.
-/
theorem encloses_of_readable
    {path : Option String} {a e b : Entity} {ending : String} {token : Token}
    (hnamed : ∃ type ∈ e.labels, type ≠ "") (hreadable : ∀ type ∈ e.labels, Readable type)
    (hlead : '[' ∉ lead path a b)
    (hfind : Token.find? (edge path a e b ending).statement.query.toList = some token) :
    (edge path a e b ending).Encloses token := by
  have hread : readLabels
      (labelRun (written (e.labels.filter (· ≠ ""))) ++ tail path e b ending) =
        (written (e.labels.filter (· ≠ "")), tail path e b ending) :=
    readLabels_labelRun (by simpa using fun type htype hne => ⟨hreadable type htype, hne⟩)
      fun c => head_tail
  have hhead : Token.atHead? ('[' :: 'e' ::
      (labelRun (written (e.labels.filter (· ≠ ""))) ++ tail path e b ending)) =
        some ⟨[], written (e.labels.filter (· ≠ "")), tail path e b ending⟩ := by
    obtain ⟨type, types, htypes⟩ : ∃ type types, e.labels.filter (· ≠ "") = type :: types := by
      obtain ⟨type, htype, hne⟩ := hnamed
      exact List.exists_cons_of_ne_nil
        (List.ne_nil_of_mem (List.mem_filter.2 ⟨htype, by simpa using hne⟩))
    rw [Token.atHead?, hread, htypes, written_cons]
  rw [toList_query_edge, toList_labelText, Token.find?_append_of_not_mem hlead hhead] at hfind
  obtain rfl := Option.some.inj hfind
  exact ⟨⟨_, by simp [Token.front]; rfl⟩, List.suffix_append _ _⟩

end Read

end Render

namespace Operation

open Outcome Render EdgeType

/-- What the unit of a read is read as. -/
inductive ReadAs : Operation → List Value → Read → Prop
  | edge {unit : List Value} {a e b : Entity}
      (hcount : unit.length ≤ 3)
      (ha : Pattern.nodeOfGroup .source (unit.getD 1 .null) = .ok a)
      (he : Entity.ofGroup (unit.getD 0 .null) = .ok e)
      (hb : Pattern.nodeOfGroup .target (unit.getD 2 .null) = .ok b) :
      ReadAs getEdge unit (.edge none a e b "RETURN e")
  | node {unit : List Value} {clauses : ClauseSet} {a : Entity}
      (hclauses : ClauseSet.ofFragments (clausesOf unit) = .ok clauses)
      (ha : Pattern.nodeOfGroup .first ((groupsOf unit).getD 0 .null) = .ok a)
      (hedge : (groupsOf unit).getD 1 .null = .null) :
      ReadAs get unit (.node a clauses.tail)
  | graph {unit : List Value} {clauses : ClauseSet} {a e b : Entity}
      (hclauses : ClauseSet.ofFragments (clausesOf unit) = .ok clauses)
      (ha : Pattern.nodeOfGroup .first ((groupsOf unit).getD 0 .null) = .ok a)
      (hedge : (groupsOf unit).getD 1 .null ≠ .null)
      (he : Entity.ofGroup ((groupsOf unit).getD 1 .null) = .ok e)
      (hb : Pattern.nodeOfGroup .second ((groupsOf unit).getD 2 .null) = .ok b) :
      ReadAs get unit
        (.edge clauses.path a (if clauses.path.isSome then pathEdge e else e) b clauses.tail)

section Reads

variable {unit : List Value} {s : Statement}

theorem statement_edge_none (a e b : Entity) :
    (Read.edge none a e b "RETURN e").statement = foundEdge a e b := by
  have hspace : " RETURN e" = " " ++ "RETURN e" := by
    rfl
  simp only [Read.statement, graphBody, foundEdge, hspace, String.append_assoc]

/-- A unit that finds edges is read as an edge between two nodes. -/
theorem exists_readAs_getEdge (h : findEdge unit = .ok s) :
    ∃ r, ReadAs getEdge unit r ∧ s = r.statement := by
  obtain ⟨hcount, a, e, b, ha, he, hb, rfl⟩ := findEdge_eq_ok_iff.1 h
  exact ⟨_, .edge hcount ha he hb, (statement_edge_none a e b).symm⟩

/-- A unit of a generic read is read as one node, or as an edge between two. -/
theorem exists_readAs_get (h : findGraph unit = .ok s) :
    ∃ r, ReadAs get unit r ∧ s = r.statement := by
  obtain ⟨-, -, clauses, hclauses, h⟩ := findGraph_eq_ok_iff.1 h
  obtain ⟨a, ha, ⟨hedge, -, rfl⟩ | ⟨hedge, e, b, he, hb, rfl⟩⟩ := findGraphOfGroups_eq_ok_iff.1 h
  · exact ⟨_, .node hclauses ha hedge, rfl⟩
  · exact ⟨_, .graph hclauses ha hedge he hb, rfl⟩

/--
A read that is rendered gives one statement, with the parameters of the read.  Of the
text it keeps all but the types of the edge of the read, or all if the read has no edge,
exactly when the first token of the text has one label, or all the colons between its
labels stand among the types of the edge.
-/
theorem kept_iff
    {op : Operation} (hread : op = getEdge ∨ op = get)
    (hrender : op.renderer.render unit = .ok (some s)) :
    ∃ r t, op.ReadAs unit r ∧ s = r.statement ∧ op.ofUnit unit = .ok [t] ∧
      t.params = s.params ∧
      (r.Kept t ↔ ∀ token, Token.find? s.query.toList = some token →
        token.labels.length = 1 ∨ r.Encloses token) := by
  obtain ⟨r, hr, hs, hunit⟩ : ∃ r, op.ReadAs unit r ∧ s = r.statement ∧
      op.ofUnit unit = expand .relaxed s := by
    rcases hread with rfl | rfl
    · obtain ⟨s', hfind, hs'⟩ := map_eq_ok_iff.1 hrender
      obtain rfl := Option.some.inj hs'
      obtain ⟨r, hr, hs⟩ := exists_readAs_getEdge hfind
      exact ⟨r, hr, hs, by rw [ofUnit, hfind, ok_bind]⟩
    · obtain ⟨s', hfind, hs'⟩ := map_eq_ok_iff.1 hrender
      obtain rfl := Option.some.inj hs'
      obtain ⟨r, hr, hs⟩ := exists_readAs_get hfind
      exact ⟨r, hr, hs, by rw [ofUnit, hfind, ok_bind]⟩
  subst hs
  rcases expand_relaxed_marks r.statement with ⟨hsame, hone⟩ |
    ⟨token, middle, hfind, htwo, htext, hbars⟩
  · refine ⟨r, r.statement, hr, rfl, hunit.trans hsame, rfl, ?_⟩
    exact iff_of_true r.kept_statement fun token hfind => Or.inl (hone token hfind)
  · refine ⟨r, _, hr, rfl, hunit.trans hbars, rfl, (Read.kept_iff_encloses htext).trans ?_⟩
    rw [hfind]
    constructor
    · rintro hencloses token' htoken
      obtain rfl := Option.some.inj htoken
      exact Or.inr hencloses
    · intro h
      rcases h token rfl with hone | hencloses
      · omega
      · exact hencloses

end Reads

/-- A read of a node by a text that looks like an edge. -/
def byText : List Value :=
  [.list [.str "alpha"], .str "WHERE a.name = '[e:x:y'", .str "RETURN a"]

/-- The text by which a node is sought is changed, though the read has no edge. -/
theorem sought_text_is_changed :
    findGraph byText = .ok ⟨"MATCH (a:alpha) WHERE a.name = '[e:x:y' RETURN a", []⟩ ∧
      get.statements byText = .ok [⟨"MATCH (a:alpha) WHERE a.name = '[e:x|y' RETURN a", []⟩] ∧
      ∀ r, get.ReadAs byText r →
        ¬ r.Kept ⟨"MATCH (a:alpha) WHERE a.name = '[e:x|y' RETURN a", []⟩ := by
  refine ⟨by decide +kernel, by decide +kernel, fun r hr hkept => ?_⟩
  cases hr with
  | graph hclauses ha hedge he hb =>
      exact hedge rfl
  | @node _ clauses a hclauses ha hedge =>
      have hclauses' : ClauseSet.ofFragments (clausesOf byText) =
          .ok ⟨"RETURN a", some "WHERE a.name = '[e:x:y'", none, none⟩ := by
        decide +kernel
      have ha' : Pattern.nodeOfGroup .first ((groupsOf byText).getD 0 .null) =
          .ok ⟨.free, ["alpha"]⟩ := by
        decide +kernel
      obtain rfl := Except.ok.inj (hclauses.symm.trans hclauses')
      obtain rfl := Except.ok.inj (ha.symm.trans ha')
      revert hkept
      unfold Read.Kept
      decide +kernel

/-- A read by the same text of edges of two types. -/
def typedByText : List Value :=
  [.list [.map [("k", .int 1)], .str "alpha"], .list [.list [.str "next", .str "works at"]],
    .str "WHERE a.name = '[e:x:y'", .list [.str "beta"], .str "RETURN b"]

/-- The statement of that read, with its types written so. -/
def typedRead (types : String) : Statement :=
  { query := "MATCH (a:alpha \x7bk: \x7bpropA\x7d.k\x7d)-[e:" ++ types ++ "]->(b:beta) " ++
      "WHERE a.name = '[e:x:y' RETURN b"
    params := [("propA", .map [("k", .int 1)])] }

/-- The types of the edge become alternatives, and the text behind them is kept. -/
theorem sought_text_is_kept_behind_types :
    get.ofUnit typedByText = .ok [typedRead "next|\x60works at\x60"] ∧
      ∃ r t, get.ReadAs typedByText r ∧ get.ofUnit typedByText = .ok [t] ∧ r.Kept t := by
  have hrender : get.renderer.render typedByText =
      .ok (some (typedRead "next:\x60works at\x60")) := by
    decide +kernel
  obtain ⟨r, t, hr, hs, hunit, -, hkept⟩ := kept_iff (Or.inr rfl) hrender
  refine ⟨by decide +kernel, r, t, hr, hunit, hkept.2 fun token hfind => Or.inr ?_⟩
  rw [hs] at hfind
  cases hr with
  | node hclauses ha hedge =>
      cases hedge
  | @graph _ clauses a e b hclauses ha hedge he hb =>
      have hclauses' : ClauseSet.ofFragments (clausesOf typedByText) =
          .ok ⟨"RETURN b", some "WHERE a.name = '[e:x:y'", none, none⟩ := by
        decide +kernel
      have ha' : Pattern.nodeOfGroup .first ((groupsOf typedByText).getD 0 .null) =
          .ok ⟨.props [("k", .int 1)], ["alpha"]⟩ := by
        decide +kernel
      have he' : Entity.ofGroup ((groupsOf typedByText).getD 1 .null) =
          .ok ⟨.free, ["next", "works at"]⟩ := by
        decide +kernel
      obtain rfl := Except.ok.inj (hclauses.symm.trans hclauses')
      obtain rfl := Except.ok.inj (ha.symm.trans ha')
      obtain rfl := Except.ok.inj (he.symm.trans he')
      have hreadable : ∀ type ∈ ["next", "works at"], Readable type := by
        simp only [Readable]
        decide
      have hlead : '[' ∉ Read.lead none ⟨.props [("k", .int 1)], ["alpha"]⟩ b := by
        simp only [Read.lead]
        decide +kernel
      exact Read.encloses_of_readable ⟨"next", by simp, by decide⟩ hreadable hlead hfind

end Operation
end CypherBatch

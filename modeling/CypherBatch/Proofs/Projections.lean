import CypherBatch.Proofs.TypeExpansion

/-!
# Expanding a statement twice

The statements that a statement stands for have no more types to expand.  In a copy
for one type the token is found where it was, with that type alone; of alternatives
the first one is read as the only type.  So a second expansion gives them back.

This takes a look at how the reader gets through the changed text.  No token begins
sooner than before: it would be a name between backticks that runs over the place of
the change, and behind that place there is no backtick where there was none.  Nor
does the type go on, if no word character stands behind the token.
-/

namespace CypherBatch
namespace EdgeType

section Changes

variable {x y rest rest' : List Char}

/--
Where no label is read in front of a bracket, none is read when the text behind the
bracket is replaced by one that has a backtick only if there was one.
-/
theorem readLabel_of_changed
    (h : readLabel (x ++ '[' :: rest) = none)
    (htick : Name.tick ∈ rest' → Name.tick ∈ rest) :
    readLabel (x ++ '[' :: rest') = none := by
  cases x with
  | nil =>
      have hbracket : Text.isWord '[' = false := by
        decide
      simp [readLabel, hbracket, Name.tick]
  | cons c x =>
      by_contra hsome
      obtain ⟨⟨label, tail⟩, hread⟩ := Option.ne_none_iff_exists'.1 hsome
      obtain ⟨hsplit, hlabel⟩ := isLabel_of_readLabel hread
      rcases hlabel with ⟨name, hne, hname, rfl⟩ | ⟨hne, hword⟩
      · obtain ⟨rfl, hbody⟩ : c = Name.tick ∧ x ++ '[' :: rest' = name ++ Name.tick :: tail := by
          simpa using hsplit
        have hmem : Name.tick ∈ x ++ '[' :: rest' := by
          simp [hbody]
        have hmem' : Name.tick ∈ x ++ '[' :: rest := by
          simp only [List.mem_append, List.mem_cons] at hmem ⊢
          exact hmem.imp_right (Or.imp_right htick)
        -- the first backtick there closes a name, and the name is not empty
        obtain ⟨n, r, hr, hn⟩ := List.eq_append_cons_of_mem hmem'
        have hfilled : n ≠ [] := by
          rintro rfl
          cases x with
          | nil =>
              exact absurd (List.cons.inj hr).1 (by decide)
          | cons d x =>
              obtain ⟨d', name, rfl⟩ := List.exists_cons_of_ne_nil hne
              obtain rfl := (List.cons.inj hr).1
              obtain rfl := (List.cons.inj hbody).1
              simp at hname
        have hlabel := readLabel_ticked hfilled hn r
        rw [← hr] at hlabel
        rw [List.cons_append, hlabel] at h
        cases h
      · obtain ⟨d, label, rfl⟩ := List.exists_cons_of_ne_nil hne
        obtain rfl := (List.cons.inj hsplit).1
        have hc := not_isWord_of_readLabel h
        simp [hword c (by simp)] at hc

namespace Token

theorem atHead?_eq_none_iff {cs : List Char} :
    atHead? cs = none ↔ ∀ x, cs = '[' :: 'e' :: ':' :: x → readLabel x = none := by
  constructor
  · rintro h x rfl
    by_contra hsome
    obtain ⟨⟨label, rest⟩, hread⟩ := Option.ne_none_iff_exists'.1 hsome
    simp [atHead?, readLabels_colon_of_some hread] at h
  · intro h
    unfold atHead?
    split
    · rename_i cs
      have hnone : (readLabels cs).1 = [] := by
        by_cases hcolon : cs.head? = some ':'
        · obtain ⟨x, rfl⟩ := List.head?_eq_some_iff.1 hcolon
          rw [readLabels_colon_of_none (h x rfl)]
        · rw [readLabels_of_ne_colon hcolon]
      split
      · rfl
      · rename_i labels rest hne hread
        rw [hread] at hnone
        exact absurd hnone hne
    · rfl

/-- No token begins in front of a bracket because the text behind it is replaced so. -/
theorem atHead?_of_changed
    (hne : y ≠ []) (h : atHead? (y ++ '[' :: rest) = none)
    (htick : Name.tick ∈ rest' → Name.tick ∈ rest) :
    atHead? (y ++ '[' :: rest') = none := by
  rw [atHead?_eq_none_iff] at h ⊢
  intro x hx
  match y, hne with
  | [c], _ =>
      simp at hx
  | [c, d], _ =>
      simp at hx
  | c :: d :: e :: z, _ =>
      obtain ⟨rfl, rfl, rfl, rfl⟩ : c = '[' ∧ d = 'e' ∧ e = ':' ∧ z ++ '[' :: rest' = x := by
        simpa using hx
      exact readLabel_of_changed (h _ rfl) htick

/-- The first token of a changed text begins where the one did that was changed. -/
theorem find?_of_changed
    {cs : List Char} {token found : Token} (h : find? cs = some token)
    (htick : Name.tick ∈ rest → Name.tick ∈ labelRun token.labels ++ token.after)
    (hhead : atHead? ('[' :: rest) = some found) :
    find? (token.before ++ '[' :: rest) = some { found with before := token.before } := by
  induction cs generalizing token with
  | nil =>
      simp [find?] at h
  | cons c cs ih =>
      cases hc : atHead? (c :: cs) with
      | some first =>
          simp only [find?, hc, Option.some.injEq] at h
          subst h
          rw [(eq_of_atHead? hc).1, List.nil_append, find?, hhead]
          simp [← (eq_of_atHead? hhead).1]
      | none =>
          simp only [find?, hc, Option.map_eq_some_iff] at h
          obtain ⟨next, hnext, rfl⟩ := h
          have hcs := (find?_spec hnext).2.1
          have hnone : atHead? ((c :: next.before) ++ '[' :: rest) = none := by
            rw [hcs, ← List.cons_append] at hc
            exact atHead?_of_changed (List.cons_ne_nil _ _) hc
              fun hmem => List.mem_cons_of_mem _ (htick hmem)
          rw [List.cons_append] at hnone ⊢
          rw [find?, hnone, ih hnext htick]
          rfl

end Token

end Changes

section SingleLabels

variable {cs label rest : List Char} {token : Token}

/-- A label is read alone in front of a text that neither goes on with it nor has another one. -/
theorem readLabels_singleton
    (hlabel : IsLabel label) (hstop : readLabels rest = ([], rest))
    (hrest : ∀ c ∈ rest.head?, Text.isWord c = false) :
    readLabels (':' :: (label ++ rest)) = ([label], rest) := by
  have hread : readLabel (label ++ rest) = some (label, rest) := by
    rcases hlabel with ⟨name, hne, htick, rfl⟩ | ⟨hne, hword⟩
    · simpa using readLabel_ticked hne htick rest
    · exact readLabel_word hne hword hrest
  rw [readLabels_colon_of_some hread, hstop]

/--
A text with one label in the place of those of its first token has its first token
there, with that label.
-/
theorem find?_of_single_label
    (h : Token.find? cs = some token) (hlabel : IsLabel label)
    (hstop : readLabels rest = ([], rest))
    (hrest : ∀ c ∈ rest.head?, Text.isWord c = false)
    (htick : Name.tick ∈ label ++ rest → Name.tick ∈ labelRun token.labels ++ token.after) :
    Token.find? (token.before ++ '[' :: 'e' :: ':' :: (label ++ rest)) =
      some ⟨token.before, [label], rest⟩ := by
  have hhead : Token.atHead? ('[' :: 'e' :: ':' :: (label ++ rest)) = some ⟨[], [label], rest⟩ := by
    rw [Token.atHead?, readLabels_singleton hlabel hstop hrest]
  refine Token.find?_of_changed h (fun hmem => htick ?_) hhead
  simpa [Name.tick] using hmem

theorem mem_labelRun_of_mem
    {labels : List (List Char)} {c : Char} (hlabel : label ∈ labels) (hc : c ∈ label) :
    c ∈ labelRun labels :=
  List.mem_flatMap.2 ⟨label, hlabel, List.mem_cons_of_mem _ hc⟩

theorem mem_labelRun_of_mem_alternation
    {labels : List (List Char)} {c : Char} (h : c ∈ alternation labels) (hc : c ≠ '|') :
    c ∈ labelRun labels := by
  induction labels with
  | nil =>
      cases h
  | cons label labels ih =>
      cases labels with
      | nil =>
          have hin : c ∈ label := h
          exact mem_labelRun_of_mem (List.mem_singleton_self label) hin
      | cons next labels =>
          rw [labelRun_cons, List.mem_cons, List.mem_append]
          simp only [alternation, List.mem_append, List.mem_cons, hc, false_or] at h
          exact Or.inr (h.imp_right ih)

variable (h : Token.find? cs = some token)
include h

/-- In a copy for one of the labels of a token, that label is read in its place. -/
theorem find?_copy
    (hlabel : label ∈ token.labels) (hafter : ∀ c ∈ token.after.head?, Text.isWord c = false) :
    Token.find? (token.replaced (':' :: label)) = some { token with labels := [label] } := by
  obtain ⟨-, -, hread⟩ := Token.find?_spec h
  obtain ⟨-, hstop, hlabels⟩ := readLabels_spec (labelRun token.labels ++ token.after)
  rw [hread] at hstop hlabels
  refine find?_of_single_label h (hlabels label hlabel) hstop hafter fun hmem => ?_
  rw [List.mem_append] at hmem ⊢
  exact hmem.imp_left (mem_labelRun_of_mem hlabel)

/-- Of the alternatives that are written for the labels of a token, the first is read alone. -/
theorem find?_alternatives (htwo : 2 ≤ token.labels.length) :
    ∃ found, Token.find? (token.replaced (':' :: alternation token.labels)) = some found ∧
      found.labels.length = 1 := by
  obtain ⟨-, -, hread⟩ := Token.find?_spec h
  have hlabels := (readLabels_spec (labelRun token.labels ++ token.after)).2.2
  rw [hread] at hlabels
  obtain ⟨before, labels, after⟩ := token
  match labels, htwo with
  | first :: next :: labels, _ =>
      have hbar : readLabels ('|' :: (alternation (next :: labels) ++ after)) =
          ([], '|' :: (alternation (next :: labels) ++ after)) :=
        readLabels_of_ne_colon (by simp)
      have hword : ∀ c ∈ ('|' :: (alternation (next :: labels) ++ after)).head?,
          Text.isWord c = false := by
        rintro c hc
        obtain rfl : '|' = c := by simpa using hc
        decide
      refine ⟨⟨before, [first], '|' :: (alternation (next :: labels) ++ after)⟩, ?_, rfl⟩
      have hfind := find?_of_single_label h (hlabels first (by simp)) hbar hword fun hmem => ?_
      · simpa [Token.replaced, alternation] using hfind
      · have hmem' : Name.tick ∈ alternation (first :: next :: labels) ++ after := by
          simpa [alternation] using hmem
        rw [List.mem_append] at hmem' ⊢
        exact hmem'.imp_left fun hin => mem_labelRun_of_mem_alternation hin (by decide)

end SingleLabels

section Statements

variable {s : Statement} {token : Token}

/-- A statement whose first token has one label stands for itself. -/
theorem expand_of_single_label
    (h : Token.find? s.query.toList = some token) (hone : token.labels.length = 1)
    (mode : Mode) :
    expand mode s = .ok [s] := by
  obtain ⟨label, hlabel⟩ := List.length_eq_one_iff.1 hone
  obtain ⟨-, htext, -⟩ := Token.find?_spec h
  have hsame : token.replaced (':' :: label) = s.query.toList := by
    rw [htext, hlabel]
    simp [Token.replaced]
  cases mode with
  | strict =>
      simp [expand, h, hlabel, hsame]
  | relaxed =>
      simp [expand, h, hone]

theorem ofQuery_of_find? (h : Token.find? s.query.toList = some token) :
    ofQuery s.query = token.labels.map String.ofList := by
  simp [ofQuery, h]

theorem ofQuery_ne_nil (h : Token.find? s.query.toList = some token) :
    ofQuery s.query ≠ [] := by
  rw [ofQuery_of_find? h, Ne, List.map_eq_nil_iff]
  exact (Token.find?_spec h).1

/-- The copies for the types of a statement have one type each, and stand for themselves. -/
theorem expand_strict_projects
    (h : Token.find? s.query.toList = some token)
    (hafter : ∀ c ∈ token.after.head?, Text.isWord c = false) :
    ∃ copies, expand .strict s = .ok copies ∧
      (copies.map fun t => ofQuery t.query) = (ofQuery s.query).map (fun type => [type]) ∧
      ∀ t ∈ copies, t.params = s.params ∧ expand .strict t = .ok [t] := by
  have hcopy {label : List Char} (hlabel : label ∈ token.labels) :
      Token.find? (bracketed token.before [label] token.after) =
        some { token with labels := [label] } := by
    rw [← replaced_colon]
    exact find?_copy h hlabel hafter
  refine ⟨_, expand_strict_of_find? h, ?_, ?_⟩
  · rw [ofQuery_of_find? h, List.map_map, List.map_map]
    refine List.map_congr_left fun label hlabel => ?_
    simp [ofQuery, hcopy hlabel]
  · intro t ht
    obtain ⟨label, hlabel, rfl⟩ := List.mem_map.1 ht
    exact ⟨rfl, expand_of_single_label (by simpa using hcopy hlabel) rfl .strict⟩

/-- A read stands for one statement, and that one for itself. -/
theorem expand_relaxed_projects (s : Statement) :
    ∃ t, expand .relaxed s = .ok [t] ∧ t.params = s.params ∧ expand .relaxed t = .ok [t] := by
  cases hfind : Token.find? s.query.toList with
  | none =>
      have hsame : expand .relaxed s = .ok [s] := by
        simp [expand, hfind]
      exact ⟨s, hsame, rfl, hsame⟩
  | some token =>
      by_cases hone : token.labels.length = 1
      · have hsame := expand_of_single_label hfind hone .relaxed
        exact ⟨s, hsame, rfl, hsame⟩
      · have htwo : 2 ≤ token.labels.length := by
          have hpos := List.length_pos_of_ne_nil (Token.find?_spec hfind).1
          omega
        obtain ⟨found, hfound, hfirst⟩ := find?_alternatives hfind htwo
        have hread : expand .relaxed s = .ok [{ s with
            query := String.ofList (token.replaced (':' :: alternation token.labels)) }] := by
          simp [expand, hfind, hone]
        refine ⟨_, hread, rfl, ?_⟩
        exact expand_of_single_label (by simpa using hfound) hfirst .relaxed

/--
If no word character stands behind the first token of a statement, expanding it is a
projection.

For a creation there is one copy for each of the types, which has that type alone, and
no copy can be made where there is no type; a read stays one statement.  All of these
keep the parameters and stand for themselves.
-/
theorem expand_is_projection
    (hafter : ∀ token, Token.find? s.query.toList = some token →
      ∀ c ∈ token.after.head?, Text.isWord c = false) :
    (ofQuery s.query = [] → expand .strict s = .error (.label .statement)) ∧
    (ofQuery s.query ≠ [] → ∃ copies, expand .strict s = .ok copies ∧
      (copies.map fun t => ofQuery t.query) = (ofQuery s.query).map fun type => [type]) ∧
    (∃ t, expand .relaxed s = .ok [t]) ∧
    ∀ mode outputs, expand mode s = .ok outputs → ∀ t ∈ outputs,
      t.params = s.params ∧ expand mode t = .ok [t] := by
  obtain ⟨read, hread, hparams, hagain⟩ := expand_relaxed_projects s
  have hrelaxed : ∀ outputs, expand .relaxed s = .ok outputs → ∀ t ∈ outputs,
      t.params = s.params ∧ expand .relaxed t = .ok [t] := by
    intro outputs houtputs t ht
    obtain rfl := Except.ok.inj (hread.symm.trans houtputs)
    obtain rfl := List.mem_singleton.1 ht
    exact ⟨hparams, hagain⟩
  cases hfind : Token.find? s.query.toList with
  | none =>
      have hstrict : expand .strict s = .error (.label .statement) := by
        simp [expand, hfind]
      have hnone : ofQuery s.query = [] := by
        simp [ofQuery, hfind]
      refine ⟨fun _ => hstrict, fun hne => absurd hnone hne, ⟨read, hread⟩, ?_⟩
      rintro (_ | _) outputs houtputs
      · rw [hstrict] at houtputs
        cases houtputs
      · exact hrelaxed outputs houtputs
  | some token =>
      obtain ⟨copies, hcopies, htypes, heach⟩ := expand_strict_projects hfind (hafter token hfind)
      refine ⟨fun hnone => absurd hnone (ofQuery_ne_nil hfind), fun _ => ⟨copies, hcopies, htypes⟩,
        ⟨read, hread⟩, ?_⟩
      rintro (_ | _) outputs houtputs
      · obtain rfl := Except.ok.inj (hcopies.symm.trans houtputs)
        exact heach
      · exact hrelaxed outputs houtputs

/-- A statement with a bracket and an empty name between backticks in front of its edge. -/
def misquoted : Statement :=
  { query := "MATCH (a:\x60[e:\x60\x60)-[e:next:\x60is next\x60:after]->(b) RETURN e"
    params := [("propA", .map [("k", .int 1)])] }

/-- No token is found in the name, in the text and in its copies. -/
theorem misquoted_is_projected :
    (∀ token, Token.find? misquoted.query.toList = some token →
      ∀ c ∈ token.after.head?, Text.isWord c = false) ∧
    ofQuery misquoted.query = ["next", "\x60is next\x60", "after"] ∧
    ∃ copies, expand .strict misquoted = .ok copies ∧
      (copies.map fun t => ofQuery t.query) = [["next"], ["\x60is next\x60"], ["after"]] ∧
      ∀ t ∈ copies, expand .strict t = .ok [t] := by
  have hfind : Token.find? misquoted.query.toList =
      some ⟨"MATCH (a:\x60[e:\x60\x60)-".toList,
        ["next".toList, "\x60is next\x60".toList, "after".toList], "]->(b) RETURN e".toList⟩ := by
    decide +kernel
  have hafter : ∀ token, Token.find? misquoted.query.toList = some token →
      ∀ c ∈ token.after.head?, Text.isWord c = false := by
    intro token htoken c hc
    obtain rfl := Option.some.inj (hfind.symm.trans htoken)
    obtain rfl : ']' = c := by simpa using hc
    decide
  have htypes : ofQuery misquoted.query = ["next", "\x60is next\x60", "after"] := by
    rw [ofQuery_of_find? hfind]
    decide +kernel
  obtain ⟨-, hcopies, -, hagain⟩ := expand_is_projection hafter
  obtain ⟨copies, hexpand, hsingle⟩ := hcopies (by simp [htypes])
  rw [htypes] at hsingle
  exact ⟨hafter, htypes, copies, hexpand, hsingle, fun t ht => (hagain _ _ hexpand t ht).2⟩

end Statements

end EdgeType
end CypherBatch

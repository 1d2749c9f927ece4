import CypherBatch.Proofs.TypeExpansion

/-!
# Reading names back

In a statement a name ends where the language says it does: a name without quotes with
the last ASCII letter, digit or underscore of its run, and a name between backticks at
the first backtick that is not doubled.  `readName` and `readNames` read by this rule.

A name that was written is read back whole, and the text behind it is left alone, unless
the name is an identifier with a line feed at its end.  Such a name is taken for a plain
identifier and stands without quotes, so that the line feed is left over.
-/

namespace CypherBatch
namespace Name

/-- Can a name that stands without quotes hold the character? -/
def isRunChar (c : Char) : Bool :=
  c.isAlpha || c.isDigit || c = '_'

/-- The name up to its closing backtick, with the rest behind it.  Two backticks stand for one. -/
def readQuoted : List Char → Option (List Char × List Char)
  | [] => none
  | [c] => if c = tick then some ([], []) else none
  | c :: d :: cs =>
      if c = tick then
        if d = tick then (readQuoted cs).map fun (name, rest) => (tick :: name, rest)
        else some ([], d :: cs)
      else (readQuoted (d :: cs)).map fun (name, rest) => (c :: name, rest)

/-- The name at the head of a text, with the rest behind it. -/
def readName : List Char → Option (List Char × List Char)
  | [] => none
  | c :: cs =>
      if c = tick then readQuoted cs
      else if isRunChar c then some (c :: cs.takeWhile isRunChar, cs.dropWhile isRunChar)
      else none

theorem length_readQuoted
    {cs name rest : List Char} (h : readQuoted cs = some (name, rest)) :
    rest.length < cs.length := by
  induction cs using readQuoted.induct generalizing name with
  | case1 =>
      simp [readQuoted] at h
  | case2 =>
      simp only [readQuoted, if_true, Option.some.injEq, Prod.mk.injEq] at h
      simp [← h.2]
  | case3 c hc =>
      simp [readQuoted, hc] at h
  | case4 cs ih =>
      simp only [readQuoted, if_true, Option.map_eq_some_iff, Prod.mk.injEq] at h
      obtain ⟨⟨name', rest'⟩, hread, -, rfl⟩ := h
      have hlt : rest'.length < cs.length := ih hread
      simp only [List.length_cons]
      omega
  | case5 d cs hd =>
      simp only [readQuoted, hd, if_true, if_false, Option.some.injEq, Prod.mk.injEq] at h
      simp [← h.2]
  | case6 c d cs hc ih =>
      simp only [readQuoted, hc, if_false, Option.map_eq_some_iff, Prod.mk.injEq] at h
      obtain ⟨⟨name', rest'⟩, hread, -, rfl⟩ := h
      exact Nat.lt_succ_of_lt (ih hread)

theorem length_readName
    {cs name rest : List Char} (h : readName cs = some (name, rest)) :
    rest.length < cs.length := by
  cases cs with
  | nil =>
      simp [readName] at h
  | cons c cs =>
      by_cases hc : c = tick
      · simp only [readName, hc, if_true] at h
        exact Nat.lt_succ_of_lt (length_readQuoted h)
      · simp only [readName, hc, if_false] at h
        split at h
        · simp only [Option.some.injEq, Prod.mk.injEq] at h
          obtain ⟨-, rfl⟩ := h
          exact Nat.lt_succ_of_le (List.dropWhile_sublist _).length_le
        · simp at h

/-- The names that a text consists of, each behind a colon. -/
def readNames : List Char → Option (List (List Char))
  | [] => some []
  | c :: cs =>
      if c = ':' then
        match _h : readName cs with
        | some (name, rest) => (readNames rest).map (name :: ·)
        | none => none
      else none
termination_by cs => cs.length
decreasing_by
  have := length_readName _h
  simp only [List.length_cons]
  omega

/-- The names that a text of labels is read as. -/
def labelsIn (text : String) : Option (List String) :=
  (readNames text.toList).map (List.map String.ofList)

/-- An ASCII letter or underscore, and further ones or digits behind it. -/
def IsIdentifier (name : List Char) : Prop :=
  ∃ c cs, name = c :: cs ∧ isIdentifierStart c = true ∧ ∀ d ∈ cs, isIdentifierPart d = true

/-- Is the name an identifier with a line feed behind it? -/
def IsLoose (name : String) : Prop :=
  ∃ identifier, IsIdentifier identifier ∧ name.toList = identifier ++ ['\n']

/-- Does no name go on into the text? -/
def EndsNames (rest : List Char) : Prop :=
  ∀ c ∈ rest.head?, isRunChar c = false ∧ c ≠ tick

section Identifiers

variable {cs name rest : List Char}

theorem isIdentifierPart_lineFeed : isIdentifierPart '\n' = false := by
  decide

theorem isIdentifierTail_iff :
    isIdentifierTail cs = true ↔
      (∀ d ∈ cs, isIdentifierPart d = true) ∨
        ∃ run, (∀ d ∈ run, isIdentifierPart d = true) ∧ cs = run ++ ['\n'] := by
  induction cs with
  | nil =>
      simp [isIdentifierTail]
  | cons c cs ih =>
      by_cases hlast : c = '\n' ∧ cs = []
      · obtain ⟨rfl, rfl⟩ := hlast
        exact iff_of_true rfl (Or.inr ⟨[], by simp, rfl⟩)
      · rw [isIdentifierTail.eq_3 c cs fun hc hcs => hlast ⟨hc, hcs⟩, Bool.and_eq_true, ih]
        constructor
        · rintro ⟨hc, hall | ⟨run, hrun, rfl⟩⟩
          · exact Or.inl (by simpa using ⟨hc, hall⟩)
          · exact Or.inr ⟨c :: run, by simpa using ⟨hc, hrun⟩, rfl⟩
        · rintro (hall | ⟨run, hrun, hcs⟩)
          · exact ⟨hall c (by simp), Or.inl fun d hd => hall d (by simp [hd])⟩
          · cases run with
            | nil =>
                exact absurd (List.cons.inj hcs) hlast
            | cons d run =>
                obtain ⟨rfl, rfl⟩ := List.cons.inj hcs
                exact ⟨hrun c (by simp), Or.inr ⟨run, fun d hd => hrun d (by simp [hd]), rfl⟩⟩

/-- What stands without quotes is an identifier, perhaps with a line feed behind it. -/
theorem isPlain_iff {name : String} :
    isPlain name.toList = true ↔ IsIdentifier name.toList ∨ IsLoose name := by
  constructor
  · intro h
    cases hname : name.toList with
    | nil =>
        rw [hname] at h
        cases h
    | cons c cs =>
        rw [hname, isPlain, Bool.and_eq_true, isIdentifierTail_iff] at h
        rcases h with ⟨hc, hall | ⟨run, hrun, rfl⟩⟩
        · exact Or.inl ⟨c, cs, rfl, hc, hall⟩
        · exact Or.inr ⟨c :: run, ⟨c, run, rfl, hc, hrun⟩, hname⟩
  · rintro (⟨c, cs, hname, hc, hall⟩ | ⟨_, ⟨c, run, rfl, hc, hrun⟩, hname⟩)
    · rw [hname, isPlain, Bool.and_eq_true, isIdentifierTail_iff]
      exact ⟨hc, Or.inl hall⟩
    · rw [hname, List.cons_append, isPlain, Bool.and_eq_true, isIdentifierTail_iff]
      exact ⟨hc, Or.inr ⟨run, hrun, rfl⟩⟩

/-- An identifier is read up to its end. -/
theorem readName_identifier
    (hname : IsIdentifier name) (hrest : ∀ c ∈ rest.head?, isRunChar c = false) :
    readName (name ++ rest) = some (name, rest) := by
  obtain ⟨c, cs, rfl, hc, hall⟩ := hname
  have hstart : isRunChar c = true := isIdentifierPart_of_isIdentifierStart hc
  have htick : c ≠ tick := by
    rintro rfl
    cases hstart
  obtain ⟨htake, hdrop⟩ := EdgeType.takeWhile_dropWhile_append (p := isRunChar) hall hrest
  rw [List.cons_append, readName, if_neg htick, if_pos hstart, htake, hdrop]

/-- Doubled backticks do not close a name. -/
theorem readQuoted_doubled (name : List Char) (hrest : rest.head? ≠ some tick) :
    readQuoted (name.flatMap doubled ++ tick :: rest) = some (name, rest) := by
  induction name with
  | nil =>
      cases rest with
      | nil =>
          rfl
      | cons d rest =>
          have hd : d ≠ tick := by simpa using hrest
          simp [readQuoted, hd]
  | cons c name ih =>
      rw [List.flatMap_cons, List.append_assoc]
      by_cases hc : c = tick
      · subst hc
        simp [doubled, readQuoted, ih]
      · obtain ⟨d, cs, hnext⟩ : ∃ d cs, name.flatMap doubled ++ tick :: rest = d :: cs :=
          List.exists_cons_of_ne_nil (by simp)
        rw [hnext] at ih ⊢
        simp [doubled, hc, readQuoted, ih]

end Identifiers

section Names

open EdgeType (labelRun written)

variable {name : String} {cs rest : List Char} {labels : List String}

theorem not_mem_of_isIdentifier (h : IsIdentifier cs) : '\n' ∉ cs := by
  obtain ⟨c, cs, rfl, hc, hall⟩ := h
  intro hline
  rcases List.mem_cons.1 hline with rfl | hline
  · cases hc
  · simpa [isIdentifierPart_lineFeed] using hall _ hline

/-- The loose names are those with a line feed that stand without quotes. -/
theorem isLoose_iff : IsLoose name ↔ isPlain name.toList = true ∧ '\n' ∈ name.toList := by
  constructor
  · intro h
    refine ⟨isPlain_iff.2 (Or.inr h), ?_⟩
    obtain ⟨identifier, -, hname⟩ := h
    simp [hname]
  · rintro ⟨hplain, hline⟩
    exact (isPlain_iff.1 hplain).resolve_left fun hid => not_mem_of_isIdentifier hid hline

instance (name : String) : Decidable (IsLoose name) :=
  decidable_of_iff _ isLoose_iff.symm

/-- Of a loose name the line feed is left over. -/
theorem exists_readName_of_isLoose (h : IsLoose name) (rest : List Char) :
    ∃ identifier, readName (quotedChars name.toList ++ rest) = some (identifier, '\n' :: rest) := by
  obtain ⟨identifier, hid, hname⟩ := id h
  refine ⟨identifier, ?_⟩
  rw [quotedChars_of_isPlain (isLoose_iff.1 h).1, hname, List.append_assoc]
  refine readName_identifier hid fun c hc => ?_
  obtain rfl : '\n' = c := by simpa using hc
  exact isIdentifierPart_lineFeed

/-- A name that is not loose is read back whole, and the text behind it is left alone. -/
theorem readName_of_not_isLoose (h : ¬ IsLoose name) (hrest : EndsNames rest) :
    readName (quotedChars name.toList ++ rest) = some (name.toList, rest) := by
  cases hplain : isPlain name.toList with
  | true =>
      rw [quotedChars_of_isPlain hplain]
      have hid := (isPlain_iff.1 hplain).resolve_right h
      exact readName_identifier hid fun c hc => (hrest c hc).1
  | false =>
      have hnext : rest.head? ≠ some tick := fun htick => (hrest tick htick).2 rfl
      rw [quotedChars_of_not_isPlain hplain, List.cons_append, readName, if_pos rfl,
        List.append_assoc, List.singleton_append]
      exact readQuoted_doubled name.toList hnext

theorem readName_quotedChars_iff (hrest : EndsNames rest) :
    readName (quotedChars name.toList ++ rest) = some (name.toList, rest) ↔ ¬ IsLoose name := by
  refine ⟨fun hread hloose => ?_, fun h => readName_of_not_isLoose h hrest⟩
  obtain ⟨identifier, hshort⟩ := exists_readName_of_isLoose hloose rest
  rw [hshort, Option.some.injEq, Prod.mk.injEq] at hread
  have hlength := congrArg List.length hread.2
  simp at hlength

theorem readNames_colon_of_some {found : List Char} (h : readName cs = some (found, rest)) :
    readNames (':' :: cs) = (readNames rest).map (found :: ·) := by
  rw [readNames, if_pos rfl]
  split
  · rename_i found' rest' h'
    rw [h, Option.some.injEq, Prod.mk.injEq] at h'
    obtain ⟨rfl, rfl⟩ := h'
    rfl
  · rename_i h'
    rw [h] at h'
    cases h'

theorem endsNames_labelRun (types : List (List Char)) : EndsNames (labelRun types) := by
  intro c hc
  cases types with
  | nil =>
      cases hc
  | cons type types =>
      obtain rfl : ':' = c := by simpa using hc
      decide

/-- Names behind colons are read back exactly if none of them is loose. -/
theorem readNames_labelRun_iff :
    readNames (labelRun (written labels)) = some (labels.map String.toList) ↔
      ∀ label ∈ labels, ¬ IsLoose label := by
  induction labels with
  | nil =>
      simp [readNames]
  | cons label labels ih =>
      rw [EdgeType.written_cons, EdgeType.labelRun_cons, List.forall_mem_cons]
      by_cases hloose : IsLoose label
      · obtain ⟨identifier, hread⟩ :=
          exists_readName_of_isLoose hloose (labelRun (written labels))
        refine iff_of_false ?_ fun h => h.1 hloose
        -- the line feed that is left over stands where a colon has to
        rw [readNames_colon_of_some hread]
        simp [readNames]
      · rw [readNames_colon_of_some (readName_of_not_isLoose hloose (endsNames_labelRun _))]
        simp [hloose, ih]

/-- The text of labels is read as the labels that are not empty exactly if none is loose. -/
theorem labelsIn_labelText_iff :
    labelsIn (labelText labels) = some (labels.filter (· ≠ "")) ↔
      ∀ label ∈ labels, ¬ IsLoose label := by
  have hempty : ¬ IsLoose "" := by
    decide
  have hfilled : (∀ label ∈ labels.filter (· ≠ ""), ¬ IsLoose label) ↔
      ∀ label ∈ labels, ¬ IsLoose label := by
    refine ⟨fun h label hlabel => ?_, fun h label hlabel => h label (List.mem_of_mem_filter hlabel)⟩
    by_cases hne : label = ""
    · exact hne ▸ hempty
    · exact h label (List.mem_filter.2 ⟨hlabel, by simpa using hne⟩)
  rw [← hfilled, ← readNames_labelRun_iff, labelsIn, EdgeType.toList_labelText]
  constructor
  · intro h
    obtain ⟨names, hnames, hlabels⟩ := Option.map_eq_some_iff.1 h
    rw [hnames, ← hlabels, List.map_map]
    simp [Function.comp_def]
  · intro h
    rw [h, Option.map_some, List.map_map]
    simp [Function.comp_def]

/-- A list of texts names those of them that are not empty. -/
theorem labels?_map_str (labels : List String) :
    labels? (.list (labels.map .str)) = some (labels.filter (· ≠ "")) := by
  have hitems : (labels.map Value.str).filter (fun item => !item.isVacant) =
      (labels.filter (· ≠ "")).map .str := by
    rw [List.filter_map]
    congr 1
    exact List.filter_congr fun label _ => by simp [Value.isVacant]
  have htexts : ((labels.filter (· ≠ "")).map Value.str).mapM Value.text? =
      some (labels.filter (· ≠ "")) := by
    induction labels.filter (· ≠ "") with
    | nil =>
        rfl
    | cons label labels ih =>
        rw [List.map_cons, List.mapM_cons, ih]
        rfl
  cases labels with
  | nil =>
      rfl
  | cons label labels =>
      rw [labels?, hitems, htexts]
      rfl

/-- Different names have different texts. -/
theorem quote_injective : Function.Injective quote := by
  intro a b h
  have hchars : quotedChars a.toList = quotedChars b.toList := by
    simpa [quote] using congrArg String.toList h
  have hmixed {a b : List Char} (ha : isPlain a = true) (hb : isPlain b = false) :
      quotedChars a ≠ quotedChars b := by
    rw [quotedChars_of_isPlain ha, quotedChars_of_not_isPlain hb]
    intro heq
    exact not_mem_of_isPlain ha EdgeType.isWord_tick (by decide) (by simp [heq])
  cases ha : isPlain a.toList <;> cases hb : isPlain b.toList
  case false.false =>
    rw [quotedChars_of_not_isPlain ha, quotedChars_of_not_isPlain hb, List.cons.injEq] at hchars
    have hread := @readQuoted_doubled [] a.toList (by simp)
    rw [hchars.2, readQuoted_doubled b.toList (by simp)] at hread
    exact String.toList_inj.1 (Prod.mk.inj (Option.some.inj hread)).1.symm
  case false.true =>
    exact absurd hchars.symm (hmixed hb ha)
  case true.false =>
    exact absurd hchars (hmixed ha hb)
  case true.true =>
    rw [quotedChars_of_isPlain ha, quotedChars_of_isPlain hb] at hchars
    exact String.toList_inj.1 hchars

end Names

/--
What is written for names is read back as the names given exactly when none is loose.

This holds for the labels in a list of texts, of which the empty ones are left out, and
for a single name, whatever stands behind it that does not go on with a name.  Different
names never have the same text.
-/
theorem names_read_back_iff
    (labels : List String) (name : String) {rest : List Char} (hrest : EndsNames rest) :
    (∃ named, labels? (.list (labels.map .str)) = some named ∧
      (labelsIn (labelText named) = some (labels.filter (· ≠ "")) ↔
        ∀ label ∈ labels, ¬ IsLoose label)) ∧
    (readName ((quote name).toList ++ rest) = some (name.toList, rest) ↔ ¬ IsLoose name) ∧
    ∀ other, quote other = quote name → other = name := by
  refine ⟨⟨_, labels?_map_str labels, ?_⟩, ?_, fun other h => quote_injective h⟩
  · rw [← labelsIn_labelText_iff]
    simp [labelText]
  · rw [quote, String.toList_ofList]
    exact readName_quotedChars_iff hrest

/-- Labels with backticks and colons in them, and with line feeds that are no loose ends. -/
def hostileLabels : List String :=
  ["a\x60b", "", "\x60", "x:\x60y\x60", "\n", "a b\n", "next"]

/-- They are read back, and so is a key that looks like the end of its map. -/
theorem hostile_names_are_read_back :
    (∃ named, labels? (.list (hostileLabels.map .str)) = some named ∧
      labelsIn (labelText named) =
        some ["a\x60b", "\x60", "x:\x60y\x60", "\n", "a b\n", "next"]) ∧
    EndsNames ": \x7bprop\x7d.".toList ∧
    readName ((quote "\x60: 1\x7d").toList ++ ": \x7bprop\x7d.".toList) =
      some ("\x60: 1\x7d".toList, ": \x7bprop\x7d.".toList) := by
  have hends : EndsNames ": \x7bprop\x7d.".toList := by
    intro c hc
    obtain rfl : ':' = c := by simpa using hc
    decide
  obtain ⟨⟨named, hnamed, hlabels⟩, hkey, -⟩ :=
    names_read_back_iff hostileLabels "\x60: 1\x7d" hends
  refine ⟨⟨named, hnamed, ?_⟩, hends, hkey.2 (by decide)⟩
  rw [hlabels.2 (by decide)]
  decide

/-- A label that ends in a line feed is not read back, but as the label without it. -/
theorem loose_label_is_not_read_back :
    labels? (.list [.str "a\n"]) = some ["a\n"] ∧ labelText ["a\n"] = ":a\n" ∧
    labelsIn (labelText ["a\n"]) ≠ some ["a\n"] ∧
    readName ((quote "a\n").toList ++ [':']) = some (['a'], ['\n', ':']) ∧
    readName ((quote "a").toList ++ [':']) = some (['a'], [':']) := by
  decide +kernel

end Name
end CypherBatch

import CypherBatch.Proofs.Clauses
import CypherBatch.Proofs.Trimming

/-!
# One role for each clause

A keyword is read letter by letter, each letter in either case and the long s as an S.
So a text begins with a keyword exactly when its letters, written as capitals, do.

Two keywords with which one text begins are one the beginning of the other.  No keyword
of one role begins a keyword of another role, so a text plays one role at most, and it
does not matter in which order the roles are tried.

The keyword of a path stands alone.  Of a text that is trimmed it leaves nothing over, so
what is kept of such a clause is the keyword itself, in some mixture of cases.
-/

namespace CypherBatch

open Text

namespace Clause

/-- The capital of a letter in either case; the long s is an S. -/
def capital (c : Char) : Char :=
  if c = '\u017f' then 'S' else c.toUpper

theorem isLower_iff {c : Char} : c.isLower = true ↔ 97 ≤ c.toNat ∧ c.toNat ≤ 122 := by
  simp [Char.isLower, UInt32.le_iff_toNat_le]

/-- The code point of a small letter is 32 above that of its capital. -/
theorem toUpper_eq_iff {k c : Char} (hk : k.isUpper = true) :
    c.toUpper = k ↔ c = k ∨ c.toNat = k.toNat + 32 := by
  have hupper := toNat_of_isUpper hk
  by_cases hlower : c.isLower = true
  · have hrange := isLower_iff.1 hlower
    have hcode : (Char.ofNat (c.toNat - 32)).toNat = c.toNat - 32 := by
      rw [Char.toNat_ofNat, if_pos (Or.inl (by omega))]
    rw [Char.toUpper_eq_of_isLower hlower, ← Char.toNat_inj, hcode, ← Char.toNat_inj]
    omega
  · rw [Char.toUpper_eq_of_not_isLower hlower, ← Char.toNat_inj]
    rw [isLower_iff] at hlower
    omega

/-- A character counts as a capital letter exactly when the letter is its capital. -/
theorem sameLetter_iff {k c : Char} (hk : k.isUpper = true) :
    sameLetter k c = true ↔ capital c = k := by
  by_cases hlong : c = '\u017f'
  · have hupper := toNat_of_isUpper hk
    have hcode : (383 : Nat) ≠ k.toNat + 32 := by
      omega
    have hcapital : '\u017f' ≠ k := by
      rintro rfl
      exact absurd hupper (by decide)
    simp [sameLetter, capital, hlong, hcode, hcapital, eq_comm]
  · have hletter : sameLetter k c = true ↔ c = k ∨ c.toNat = k.toNat + 32 := by
      simp [sameLetter, hlong]
    rw [hletter, capital, if_neg hlong, toUpper_eq_iff hk]

section Keywords

variable {keyword : List Char} (hkeyword : ∀ k ∈ keyword, k.isUpper = true)
include hkeyword

/-- A keyword is read off a text exactly when the text begins with it, in any case of letters. -/
theorem afterKeyword?_eq_some_iff {cs rest : List Char} :
    afterKeyword? keyword cs = some rest ↔
      ∃ word, word.map capital = keyword ∧ word ++ rest = cs := by
  induction keyword generalizing cs with
  | nil =>
      simp [afterKeyword?, eq_comm]
  | cons k keyword ih =>
      obtain ⟨hk, hrest⟩ := List.forall_mem_cons.1 hkeyword
      cases cs with
      | nil =>
          simp [afterKeyword?]
      | cons c cs =>
          constructor
          · intro h
            rw [afterKeyword?] at h
            split at h
            · rename_i hletter
              obtain ⟨word, hword, happend⟩ := (ih hrest).1 h
              refine ⟨c :: word, ?_, by rw [List.cons_append, happend]⟩
              rw [List.map_cons, hword, (sameLetter_iff hk).1 hletter]
            · cases h
          · rintro ⟨word, hword, happend⟩
            cases word with
            | nil =>
                cases hword
            | cons d word =>
                obtain ⟨hd, hword⟩ := List.cons.inj hword
                obtain ⟨rfl, hbehind⟩ := List.cons.inj happend
                rw [afterKeyword?, if_pos ((sameLetter_iff hk).2 hd)]
                exact (ih hrest).2 ⟨word, hword, hbehind⟩

end Keywords

/-- A text opens with a keyword, in one of three ways, only if its capitals begin with it. -/
theorem prefix_of_opens
    {first : String} (hfirst : first ∈ keywords) {cs : List Char}
    (h : opens first cs = true ∨ isAlone first cs = true ∨
      ∃ second, opensTwo first second cs = true) :
    first.toList <+: cs.map capital := by
  cases hread : afterKeyword? first.toList cs with
  | none =>
      simp [opens, isAlone, opensTwo, hread] at h
  | some rest =>
      obtain ⟨word, hword, rfl⟩ :=
        (afterKeyword?_eq_some_iff (isUpper_of_mem_keywords hfirst)).1 hread
      exact ⟨rest.map capital, by rw [List.map_append, hword]⟩

/-- A keyword stands alone exactly when nothing but white space is behind it. -/
theorem isAlone_iff {keyword : String} (hkeyword : keyword ∈ keywords) {cs : List Char} :
    isAlone keyword cs = true ↔
      ∃ word blanks, word.map capital = keyword.toList ∧ (∀ c ∈ blanks, isBlank c = true) ∧
        word ++ blanks = cs := by
  have hread (rest : List Char) : afterKeyword? keyword.toList cs = some rest ↔
      ∃ word, word.map capital = keyword.toList ∧ word ++ rest = cs :=
    afterKeyword?_eq_some_iff (isUpper_of_mem_keywords hkeyword)
  unfold isAlone
  constructor
  · intro h
    split at h
    · rename_i rest hrest
      obtain ⟨word, hword, happend⟩ := (hread rest).1 hrest
      exact ⟨word, rest, hword, List.all_eq_true.1 h, happend⟩
    · cases h
  · rintro ⟨word, blanks, hword, hblanks, happend⟩
    rw [(hread blanks).2 ⟨word, hword, happend⟩]
    exact List.all_eq_true.2 hblanks

/-- In a text that is trimmed, a keyword stands alone exactly when it is the text. -/
theorem isAlone_trimmed_iff
    {keyword : String} (hkeyword : keyword ∈ keywords) {cs : List Char}
    (hend : dropBlankEnd cs = cs) :
    isAlone keyword cs = true ↔ cs.map capital = keyword.toList := by
  rw [isAlone_iff hkeyword]
  constructor
  · rintro ⟨word, blanks, hword, hblanks, rfl⟩
    rw [eq_nil_of_dropBlankEnd hblanks hend, List.append_nil, hword]
  · intro hword
    exact ⟨cs, [], hword, by simp, List.append_nil cs⟩

/-- Is the text a keyword of a path, in any case of its letters? -/
def IsPathWord (text : String) : Prop :=
  text.map capital = "SHORTESTPATH" ∨ text.map capital = "ALLSHORTESTPATHS"

end Clause

namespace ClauseRole

/-- The keywords with which a clause of the role can begin. -/
def keywords : ClauseRole → List String
  | .filter => ["WHERE"]
  | .mutation => ["SET", "REMOVE"]
  | .terminal => ["RETURN", "DELETE", "DETACH"]
  | .path => ["ALLSHORTESTPATHS", "SHORTESTPATH"]

theorem mem_all (role : ClauseRole) : role ∈ all := by
  cases role <;> decide

/-- No keyword of one role is the beginning of a keyword of another. -/
theorem eq_of_keyword_begins
    {role other : ClauseRole} {first second : String} (hfirst : first ∈ role.keywords)
    (hsecond : second ∈ other.keywords) (h : first.toList <+: second.toList) : role = other := by
  have happart : ∀ role ∈ all, ∀ other ∈ all, ∀ first ∈ role.keywords,
      ∀ second ∈ other.keywords, first.toList <+: second.toList → role = other := by
    decide +kernel
  exact happart role (mem_all role) other (mem_all other) first hfirst second hsecond h

theorem mem_keywords
    {role : ClauseRole} {keyword : String} (h : keyword ∈ role.keywords) :
    keyword ∈ Clause.keywords := by
  have hall : ∀ role ∈ all, ∀ keyword ∈ role.keywords, keyword ∈ Clause.keywords := by
    decide +kernel
  exact hall role (mem_all role) keyword h

/-- A clause begins with one of the keywords of its role. -/
theorem exists_keyword_of_matchesTrimmed
    {role : ClauseRole} {cs : List Char} (h : role.matchesTrimmed cs = true) :
    ∃ keyword ∈ role.keywords, keyword.toList <+: cs.map Clause.capital := by
  have hbegins {keyword : String} (hmem : keyword ∈ role.keywords)
      (hopens : Clause.opens keyword cs = true ∨ Clause.isAlone keyword cs = true ∨
        ∃ second, Clause.opensTwo keyword second cs = true) :
      ∃ keyword ∈ role.keywords, keyword.toList <+: cs.map Clause.capital :=
    ⟨keyword, hmem, Clause.prefix_of_opens (mem_keywords hmem) hopens⟩
  cases role with
  | filter =>
      exact hbegins (by simp [keywords]) (Or.inl h)
  | mutation =>
      rcases Bool.or_eq_true_iff.1 h with hset | hremove
      · exact hbegins (by simp [keywords]) (Or.inl hset)
      · exact hbegins (by simp [keywords]) (Or.inl hremove)
  | terminal =>
      rcases Bool.or_eq_true_iff.1 h with hone | hdetach
      · rcases Bool.or_eq_true_iff.1 hone with hreturn | hdelete
        · exact hbegins (by simp [keywords]) (Or.inl hreturn)
        · exact hbegins (by simp [keywords]) (Or.inl hdelete)
      · exact hbegins (by simp [keywords]) (Or.inr (Or.inr ⟨_, hdetach⟩))
  | path =>
      rcases Bool.or_eq_true_iff.1 h with hall | hshortest
      · exact hbegins (by simp [keywords]) (Or.inr (Or.inl hall))
      · exact hbegins (by simp [keywords]) (Or.inr (Or.inl hshortest))

section Roles

variable {text : String}

/-- A text plays one role at most. -/
theorem eq_of_accepts
    {role other : ClauseRole} (hrole : role.accepts text = true)
    (hother : other.accepts text = true) : role = other := by
  obtain ⟨first, hfirst, hbegin⟩ := exists_keyword_of_matchesTrimmed hrole
  obtain ⟨second, hsecond, hbegin'⟩ := exists_keyword_of_matchesTrimmed hother
  -- both keywords begin the capitals of the text, so one of them begins the other
  rcases List.prefix_or_prefix_of_prefix hbegin hbegin' with h | h
  · exact eq_of_keyword_begins hfirst hsecond h
  · exact (eq_of_keyword_begins hsecond hfirst h).symm

/-- In whatever order the roles are tried, the one that accepts the text is found. -/
theorem find?_accepts_eq_some_iff
    {order : List ClauseRole} (horder : order.Perm all) {role : ClauseRole} :
    order.find? (fun role => role.accepts text) = some role ↔ role.accepts text = true := by
  have haccepts {found : ClauseRole}
      (hfound : order.find? (fun role => role.accepts text) = some found) :
      found.accepts text = true :=
    List.find?_some (p := fun role => accepts role text) hfound
  constructor
  · exact haccepts
  · intro h
    obtain ⟨found, hfound⟩ := Option.isSome_iff_exists.1
      (List.find?_isSome (p := fun role => accepts role text).2
        ⟨role, horder.mem_iff.2 (mem_all role), h⟩)
    rw [hfound, eq_of_accepts (haccepts hfound) h]

theorem ofText?_eq_some_iff {role : ClauseRole} :
    ofText? text = some role ↔ role.accepts text = true :=
  find?_accepts_eq_some_iff (List.Perm.refl all)

/-- A text asks for a path exactly when, without white space around it, it is a path keyword. -/
theorem ofText?_eq_path_iff :
    ofText? text = some .path ↔ Clause.IsPathWord (trim text) := by
  have halone {keyword : String} (h : keyword ∈ Clause.keywords) :=
    Clause.isAlone_trimmed_iff h (dropBlankEnd_trim text)
  rw [ofText?_eq_some_iff, ← accepts_trim, accepts, dropBlank_trim, matchesTrimmed, Bool.or_eq_true,
    halone (by simp [Clause.keywords]), halone (by simp [Clause.keywords]), or_comm,
    Clause.IsPathWord, ← String.toList_inj, ← String.toList_inj, String.toList_map]

end Roles

/-- A text plays one role at most, whatever white space is around it and in whatever order the
roles are tried.  What is kept of a fragment that asks for a path is a keyword of a path, in some
mixture of cases, and nothing else. -/
theorem roles_are_unambiguous :
    (∀ (text : String) (role other : ClauseRole),
      role.accepts text = true → other.accepts text = true → role = other) ∧
    (∀ (order : List ClauseRole), order.Perm all → ∀ text : String,
      order.find? (fun role => role.accepts text) = ofText? text) ∧
    (∀ text : String, ofText? (trim text) = ofText? text) ∧
    ∀ (fragments : List Value) (clauses : ClauseSet),
      ClauseSet.ofFragments fragments = .ok clauses →
      (∀ text : String, .str text ∈ fragments → ofText? text = some .path →
        clauses.path = some (trim text)) ∧
      ∀ kept, clauses.path = some kept → Clause.IsPathWord kept := by
  refine ⟨fun text role other => eq_of_accepts, fun order horder text => ?_, ofText?_trim,
    fun fragments clauses h => ?_⟩
  · exact Option.ext fun role => by
      rw [find?_accepts_eq_some_iff horder, ofText?_eq_some_iff]
  · have hpath {kept : String} : clauses.path = some kept ↔
        ∃ text, Value.str text ∈ fragments ∧ ofText? text = some .path ∧ kept = trim text :=
      @ClauseSet.get?_eq_some_iff _ _ h .path kept
    refine ⟨fun text hmem hrole => hpath.2 ⟨text, hmem, hrole, rfl⟩, fun kept hkept => ?_⟩
    obtain ⟨text, -, hrole, rfl⟩ := hpath.1 hkept
    exact ofText?_eq_path_iff.1 hrole

/-- A read whose path keyword is written in small and capital letters, with a long s, between
an em space and a line feed. -/
def mixedCasePath : List Value :=
  [.str "\u2003all\u017fhortestPaths \n", .str "return p"]

/-- The white space is cut off, and what is left is a keyword of a path. -/
theorem mixed_case_path_is_kept :
    ∃ clauses, ClauseSet.ofFragments mixedCasePath = .ok clauses ∧
      clauses.path = some "all\u017fhortestPaths" ∧
      Clause.IsPathWord "all\u017fhortestPaths" ∧
      [path, terminal, mutation, filter].find?
        (fun role => role.accepts "\u2003all\u017fhortestPaths \n") = some path := by
  obtain ⟨-, horder, -, hkept⟩ := roles_are_unambiguous
  have hread : ClauseSet.ofFragments mixedCasePath =
      .ok ⟨"return p", none, none, some "all\u017fhortestPaths"⟩ := by
    decide +kernel
  refine ⟨_, hread, rfl, (hkept _ _ hread).2 _ rfl, ?_⟩
  rw [horder _ (by decide)]
  decide +kernel

end ClauseRole
end CypherBatch

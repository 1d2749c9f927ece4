import CypherBatch.Text.Base64

/-!
# Credentials

Credentials are given as a user name and a password with a colon between them.
The first colon separates, so that a password may hold more of them.  They are
sent as the Base64 text of their bytes.
-/

namespace CypherBatch

/-- A user name and a password. -/
structure Credentials where
  user : String
  password : String
deriving DecidableEq

namespace Credentials

/-- What stands before and behind the first colon. -/
def splitAtColon : List Char → Option (List Char × List Char)
  | [] => none
  | c :: rest =>
      if c = ':' then some ([], rest)
      else (splitAtColon rest).map fun (user, password) => (c :: user, password)

def parse? (text : String) : Option Credentials :=
  (splitAtColon text.toList).map fun (user, password) =>
    ⟨String.ofList user, String.ofList password⟩

def text (c : Credentials) : String :=
  c.user ++ ":" ++ c.password

/-- The value of the header that carries the credentials. -/
def header (c : Credentials) : String :=
  "Basic " ++ String.ofList (Text.base64 c.text.toUTF8.toList)

/-- The error of a text without a colon. -/
def formMessage : String :=
  "You must supply credentials as '<username>:<password>'"

theorem splitAtColon_join
    {cs user password : List Char} (h : splitAtColon cs = some (user, password)) :
    cs = user ++ ':' :: password := by
  induction cs generalizing user with
  | nil => simp [splitAtColon] at h
  | cons c cs ih =>
      by_cases hc : c = ':'
      · simp only [splitAtColon, hc, if_true, Option.some.injEq, Prod.mk.injEq] at h
        obtain ⟨rfl, rfl⟩ := h
        simp [hc]
      · simp only [splitAtColon, hc, if_false, Option.map_eq_some_iff, Prod.mk.injEq] at h
        obtain ⟨⟨user', password'⟩, hs, rfl, rfl⟩ := h
        simp [ih hs]

theorem splitAtColon_isSome_iff {cs : List Char} :
    (splitAtColon cs).isSome = true ↔ ':' ∈ cs := by
  induction cs with
  | nil => simp [splitAtColon]
  | cons c cs ih =>
      by_cases hc : c = ':'
      · simp [splitAtColon, hc]
      · simp [splitAtColon, hc, ih, Ne.symm hc]

theorem parse?_isSome_iff {text : String} : (parse? text).isSome = true ↔ ':' ∈ text.toList := by
  rw [parse?, Option.isSome_map, splitAtColon_isSome_iff]

end Credentials
end CypherBatch

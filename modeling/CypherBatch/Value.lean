import CypherBatch.Double

/-!
# Property values

A property graph stores scalars, lists and maps.  This module defines:

* the dynamic value type `Value`, in which call arguments, stored properties
  and documents are given;
* `PropertyMap`, a map held as its list of fields in insertion order;
* the three map operations that the rest of the library uses: look-up,
  insertion and construction from a list of pairs.

Insertion keeps the position of a key that is already there, so the order of
a map is the order in which its keys were first given.
-/

namespace CypherBatch

/-- A scalar, list or map.  Integers are of unlimited size. -/
inductive Value where
  | null
  | bool (b : Bool)
  | int (n : Int)
  | float (x : Double)
  | str (s : String)
  | list (items : List Value)
  | map (fields : List (String × Value))

instance : Inhabited Value := ⟨.null⟩

/-- A map as its fields, in insertion order. -/
abbrev PropertyMap := List (String × Value)

namespace PropertyMap

def keys (m : PropertyMap) : List String :=
  m.map (·.1)

def get? : PropertyMap → String → Option Value
  | [], _ => none
  | (k, v) :: rest, key => if k = key then some v else get? rest key

/-- Is there a field of this name? -/
def contains (m : PropertyMap) (key : String) : Bool :=
  (get? m key).isSome

/-- Store a value: in place when the key is there, at the end otherwise. -/
def insert (key : String) (value : Value) : PropertyMap → PropertyMap
  | [] => [(key, value)]
  | (k, v) :: rest =>
      if k = key then (k, value) :: rest else (k, v) :: insert key value rest

/-- Store several fields, one after another. -/
def insertAll (m : PropertyMap) (fields : List (String × Value)) : PropertyMap :=
  fields.foldl (fun acc field => insert field.1 field.2 acc) m

/-- The map of a list of pairs.  Of a repeated key the last value counts, at the first position. -/
def ofPairs (pairs : List (String × Value)) : PropertyMap :=
  insertAll [] pairs

/-- A field just stored is read back. -/
@[simp] theorem get?_insert_self
    (key : String) (value : Value) (m : PropertyMap) :
    get? (insert key value m) key = some value := by
  induction m with
  | nil => simp [insert, get?]
  | cons field rest ih =>
      obtain ⟨k, v⟩ := field
      by_cases h : k = key <;> simp [insert, get?, h, ih]

/-- Storing one field leaves every other field as it was. -/
theorem get?_insert_of_ne
    {key other : String} (h : other ≠ key) (value : Value) (m : PropertyMap) :
    get? (insert key value m) other = get? m other := by
  induction m with
  | nil => simp [insert, get?, Ne.symm h]
  | cons field rest ih =>
      obtain ⟨k, v⟩ := field
      by_cases hk : k = key
      · subst hk
        simp [insert, get?, Ne.symm h]
      · by_cases ho : k = other
        · subst ho
          simp [insert, get?, hk]
        · simp [insert, get?, hk, ho, ih]

/-- The keys after storing a field: the old keys, and the new one at the end if it was not there. -/
theorem keys_insert (key : String) (value : Value) (m : PropertyMap) :
    keys (insert key value m) = if key ∈ keys m then keys m else keys m ++ [key] := by
  induction m with
  | nil => simp [insert, keys]
  | cons field rest ih =>
      obtain ⟨k, v⟩ := field
      simp only [keys] at ih ⊢
      by_cases hk : k = key
      · subst hk
        simp [insert]
      · by_cases hr : key ∈ rest.map (·.1)
        · simp [insert, hk, Ne.symm hk, ih, hr]
        · simp [insert, hk, Ne.symm hk, ih, hr]

end PropertyMap

namespace Value

mutual

def decEq : (a b : Value) → Decidable (a = b)
  | .null, b => match b with
      | .null => isTrue rfl
      | .bool _ | .int _ | .float _ | .str _ | .list _ | .map _ => isFalse (by simp)
  | .bool x, b => match b with
      | .bool y => decidable_of_iff (x = y) (by simp)
      | .null | .int _ | .float _ | .str _ | .list _ | .map _ => isFalse (by simp)
  | .int x, b => match b with
      | .int y => decidable_of_iff (x = y) (by simp)
      | .null | .bool _ | .float _ | .str _ | .list _ | .map _ => isFalse (by simp)
  | .float x, b => match b with
      | .float y => decidable_of_iff (x = y) (by simp)
      | .null | .bool _ | .int _ | .str _ | .list _ | .map _ => isFalse (by simp)
  | .str x, b => match b with
      | .str y => decidable_of_iff (x = y) (by simp)
      | .null | .bool _ | .int _ | .float _ | .list _ | .map _ => isFalse (by simp)
  | .list xs, b => match b with
      | .list ys =>
          match decEqItems xs ys with
          | isTrue h => isTrue (by simp [h])
          | isFalse h => isFalse (by simp [h])
      | .null | .bool _ | .int _ | .float _ | .str _ | .map _ => isFalse (by simp)
  | .map xs, b => match b with
      | .map ys =>
          match decEqFields xs ys with
          | isTrue h => isTrue (by simp [h])
          | isFalse h => isFalse (by simp [h])
      | .null | .bool _ | .int _ | .float _ | .str _ | .list _ => isFalse (by simp)

def decEqItems : (xs ys : List Value) → Decidable (xs = ys)
  | [], ys => match ys with
      | [] => isTrue rfl
      | _ :: _ => isFalse (by simp)
  | x :: xs, ys => match ys with
      | [] => isFalse (by simp)
      | y :: ys =>
          match decEq x y, decEqItems xs ys with
          | isTrue h, isTrue hs => isTrue (by simp [h, hs])
          | isFalse h, _ => isFalse (by simp [h])
          | _, isFalse hs => isFalse (by simp [hs])

def decEqFields : (xs ys : List (String × Value)) → Decidable (xs = ys)
  | [], ys => match ys with
      | [] => isTrue rfl
      | _ :: _ => isFalse (by simp)
  | (k, x) :: xs, ys => match ys with
      | [] => isFalse (by simp)
      | (l, y) :: ys =>
          if hk : k = l then
            match decEq x y, decEqFields xs ys with
            | isTrue h, isTrue hs => isTrue (by simp [hk, h, hs])
            | isFalse h, _ => isFalse (by simp [h])
            | _, isFalse hs => isFalse (by simp [hs])
          else isFalse (by simp [hk])

end

instance : DecidableEq Value := decEq

/-- Is this a list?  Strings and maps are no groups. -/
def isList : Value → Bool
  | .list _ => true
  | _ => false

def isMap : Value → Bool
  | .map _ => true
  | _ => false

def text? : Value → Option String
  | .str s => some s
  | _ => none

def isText (v : Value) : Bool :=
  v.text?.isSome

/-- Nothing is said by null, false, a zero, or an empty string, list or map. -/
def isVacant : Value → Bool
  | .null => true
  | .bool b => !b
  | .int n => n = 0
  | .float x => x.magnitude = 0
  | .str s => s = ""
  | .list items => items.isEmpty
  | .map fields => fields.isEmpty

/--
The items that a value yields when it is read one by one: a list its items, a
string its characters, a map its keys.  Other values yield nothing at all.
-/
def items? : Value → Option (List Value)
  | .list items => some items
  | .str s => some (s.toList.map fun c => .str (String.singleton c))
  | .map fields => some (fields.map fun field => .str field.1)
  | _ => none

end Value

end CypherBatch

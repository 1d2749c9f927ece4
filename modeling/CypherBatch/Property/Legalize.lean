import CypherBatch.Digest.Sha256
import CypherBatch.Instant
import CypherBatch.Json.Printer
import CypherBatch.Property.Flatten
import CypherBatch.Property.Legal

/-!
# Making a property map legal

A map is flattened and stamped with its identity and audit fields.  The identity
is the value of a named field, or else the digest of the canonical text of the
map without those four fields.  Stamping writes in place where a field is there,
and at the end otherwise.
-/

namespace CypherBatch

/-- Where the identity of an entity is taken from. -/
inductive Identity where
  | content
  | field (name : String)
deriving DecidableEq

/-- Why a map cannot be given an identity. -/
inductive IdentityError where
  /-- The map has no field of the given name. -/
  | missingField (name : Value)
  /-- A list or map is given as the name of a field. -/
  | notName
deriving DecidableEq

namespace IdentityError

def message? : IdentityError → Option String
  | missingField name => some ("hash_by field " ++ name.shown ++ " is missing from the property map")
  | notName => none

end IdentityError

namespace Identity

/-- The name that stands for an identity by content. -/
def contentName : String := "content"

/-- What a map records as the source of its identity. -/
def name : Identity → String
  | content => contentName
  | field name => name

/-- The source that the caller names, or else the one that the map itself names. -/
def requested (hashBy : Value) (flat : PropertyMap) : Value :=
  if hashBy.isVacant then (PropertyMap.get? flat "hash_by").getD .null else hashBy

def choose (hashBy : Value) (flat : PropertyMap) : Except IdentityError Identity :=
  let source := requested hashBy flat
  if source.isVacant ∨ source = .str contentName then .ok .content
  else
    match source with
    | .str name =>
        if PropertyMap.contains flat name then .ok (.field name) else .error (.missingField source)
    | .list _ | .map _ => .error .notName
    | _ => .error (.missingField source)

end Identity

/-- The digest of the canonical text of a value. -/
def contentHash (v : Value) : String :=
  Digest.sha256Hex (Json.canonical v).toUTF8.toList

namespace PropertyMap

/-- The fields that make up the identity of a map by content. -/
def identityFields (m : PropertyMap) : PropertyMap :=
  m.filter fun field => !requiredFields.contains field.1

/-- Stamp the source and the value of the identity. -/
def stampIdentity (identity : Identity) (flat : PropertyMap) : PropertyMap :=
  let named := insert "hash_by" (.str identity.name) flat
  match identity with
  | .content => insert "hash" (.str (contentHash (.map (identityFields flat)))) named
  | .field name => insert "hash" ((get? named name).getD .null) named

def stampAudit (updatedBy : Value) (now : Instant) (m : PropertyMap) : PropertyMap :=
  insert "updated_when" (.str now.text) (insert "updated_by" updatedBy m)

/-- The flat map with its identity and audit fields. -/
def legalize (hashBy updatedBy : Value) (now : Instant) (m : PropertyMap) :
    Except IdentityError PropertyMap := do
  let flat := flatten separator m
  let identity ← Identity.choose hashBy flat
  return stampAudit updatedBy now (stampIdentity identity flat)

end PropertyMap
end CypherBatch

import TrustSchema.Name.Uri
import TrustSchema.Packet.Signature

/-!
# Interests

An interest asks for data by name. A signed interest carries its signature in its name: after the
name that is signed comes a component with the signature info and one with the signature value. The
signature covers the name up to and including the info component.

- `Interest.signed`: puts a signed interest together.
- `Interest.signedName`, `Interest.signature`, `Interest.signedBytes`: take it apart again.
-/

namespace TrustSchema

open Wire

/-- A query for data, by name. -/
structure Interest where
  name : Name
  deriving DecidableEq

/-- Why an interest carries no signature. -/
inductive InterestError
  /-- There is no room for the two signature components. -/
  | tooFewComponents (name : Name) (count : Nat)
  /-- The last component but one is no signature info. -/
  | signatureInfo (name : Name) (reason : DecodeError)
  deriving DecidableEq

/-- The wording of the error. -/
def InterestError.message : InterestError → String
  | .tooFewComponents name count =>
    "interest " ++ name.toUri ++ " has " ++ toString count ++
      " components, a signed interest needs at least 2"
  | .signatureInfo name reason =>
    "cannot decode signature info of " ++ name.toUri ++ ": " ++ reason.message

namespace Interest

/-- The name whose encoding the signature of an interest covers. -/
def coveredName (signedName : Name) (info : SignatureInfo) : Name :=
  signedName.push ⟨info.encode⟩

/-- The full name of a signed interest. -/
def fullName (signedName : Name) (signature : Signature) : Name :=
  (coveredName signedName signature.info).push ⟨signature.value⟩

/-- The interest whose signature value a signer computes from the signed bytes. -/
def signed (signedName : Name) (info : SignatureInfo) (sign : List UInt8 → List UInt8) : Interest :=
  ⟨fullName signedName ⟨info, sign (coveredName signedName info).encode⟩⟩

/-- The name without the two signature components. -/
def signedName (i : Interest) : Except InterestError Name :=
  if i.name.length < 2 then .error (.tooFewComponents i.name i.name.length)
  else .ok (i.name.take (-2))

/-- The signature that the last two components hold. -/
def signature (i : Interest) : Except InterestError Signature :=
  match i.name.get? (-2), i.name.get? (-1) with
  | some info, some value =>
    match SignatureInfo.ofBytes info.bytes with
    | .ok info => .ok ⟨info, value.bytes⟩
    | .error reason => .error (.signatureInfo i.name reason)
  | _, _ => .error (.tooFewComponents i.name i.name.length)

/-- The bytes that the signature covers: all components but the last. -/
def signedBytes (i : Interest) : List UInt8 := i.name.parent.encode

end Interest

end TrustSchema

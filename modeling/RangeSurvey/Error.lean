import RangeSurvey.Settings

/-!
# Errors

Why a station could not be made or taken into the roster.
-/

namespace RangeSurvey

/-- Digits for a number in hexadecimal, at least `width` of them. -/
def hexDigits (width n : Nat) : String :=
  let digits := Nat.toDigits 16 n
  String.ofList (List.replicate (width - digits.length) '0' ++ digits)

inductive EnrolmentError where
  | invalidNodeCount (count : Nat)
  /-- The station's own slot is no row of the table. -/
  | slotOutOfRange (slot nodeCount : Nat)
  /-- The device runs a survey of another size. -/
  | nodeCountMismatch (existing requested : Nat)
  /-- The device runs a survey under another address, slot or cell. -/
  | identityMismatch (existing requested : Identity)
  /-- The device has another station. -/
  | deviceInUse (device : Nat)
  | allocationFailed
deriving DecidableEq, Repr

namespace EnrolmentError

def place (identity : Identity) : String :=
  "slot " ++ toString identity.slot.toNat ++ " in cell " ++ toString identity.cell.toNat ++
    " (address 0x" ++ hexDigits 4 identity.address.toNat ++ ")"

def message : EnrolmentError → String
  | invalidNodeCount count =>
    "invalid node count " ++ toString count ++ " (expected " ++ toString minNodes ++ "..=" ++
      toString maxNodes ++ ")"
  | slotOutOfRange slot nodeCount =>
    "slot id " ++ toString slot ++ " out of range for " ++ toString nodeCount ++ " nodes"
  | nodeCountMismatch existing requested =>
    "survey already initialized with " ++ toString existing ++ " nodes, requested " ++
      toString requested
  | identityMismatch existing requested =>
    "survey already initialized as " ++ place existing ++ ", requested " ++ place requested
  | deviceInUse device => "device " ++ toString device ++ " already has a survey session"
  | allocationFailed => "survey storage allocation failed"

end EnrolmentError

end RangeSurvey

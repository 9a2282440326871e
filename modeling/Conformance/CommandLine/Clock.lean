import Conformance.Date

/-! Times and run names as texts. -/
namespace Conformance.Clock

/-- A moment in universal time, given in seconds after the start of 1970. -/
def text (seconds : Int) : String :=
  let clock := (seconds % 86400).toNat
  Date.toText ⟨seconds / 86400⟩ ++ "T" ++ Date.padded 2 (clock / 3600) ++ ":" ++
    Date.padded 2 (clock / 60 % 60) ++ ":" ++ Date.padded 2 (clock % 60) ++ "Z"

def today (seconds : Int) : Date := ⟨seconds / 86400⟩

/-- Digits and letters, without those that are easily mistaken. -/
def alphabet : List Char := "0123456789ABCDEFGHJKMNPQRSTVWXYZ".toList

/-- A number in a fixed count of digits to the base 32. -/
def base32 (count n : Nat) : String :=
  String.ofList ((List.range count).map fun i => alphabet.getD (n >>> (5 * (count - 1 - i)) % 32) '0')

/-- A name for a run that sorts by time: milliseconds, then chance. -/
def runId (milliseconds chance : Nat) : String := base32 10 milliseconds ++ base32 16 chance

end Conformance.Clock

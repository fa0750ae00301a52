import BuildOperator.Failure
/-!
# Addresses of requests

An address is a path, perhaps a question mark and a query, and perhaps a hash and a fragment, which
is not sent. What is written is checked and never escaped.
-/
namespace BuildOperator.Api.Address

/-- The most bytes that an address may have. -/
def maxLength : Nat := 65534

/-- Whether `c` is none of these marks, no space and no control character of ASCII. -/
def isNoneOf (marks : List Char) (c : Char) : Bool := '!' ≤ c && c ≠ '\x7f' && marks.all (· ≠ c)

/-- Characters that a path may have. -/
def isPathChar : Char → Bool := isNoneOf ['#', '<', '>', '?', '\x60']

/-- Characters that a query may have. -/
def isQueryChar : Char → Bool := isNoneOf ['"', '#', '<', '>']

/-- The part before the fragment. -/
def withoutFragment (cs : List Char) : List Char := cs.takeWhile (· ≠ '#')

/-- The path and the query. -/
def split (cs : List Char) : List Char × List Char :=
  (cs.takeWhile (· ≠ '?'), (cs.dropWhile (· ≠ '?')).tail)

/-- The address that is sent for what is written. -/
def read (written : String) : Except ApiFailure String :=
  if maxLength < written.utf8ByteSize then .error .addressLength
  else
    let sent := withoutFragment written.toList
    let (path, query) := split sent
    if path.all isPathChar && query.all isQueryChar then .ok (.ofList sent)
    else .error .addressCharacter

end BuildOperator.Api.Address

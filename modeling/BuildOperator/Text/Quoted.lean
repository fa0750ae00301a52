import BuildOperator.Text.Unprintable
/-!
# Quoted text

A text between double quotes on one line: quotes, backslashes and unprintable characters are
escaped, everything else stands as it is.
-/
namespace BuildOperator.Text

/-- A character inside a quoted text. -/
def escape (c : Char) : List Char :=
  match c with
  | '\x00' => ['\\', '0']
  | '\t' => ['\\', 't']
  | '\n' => ['\\', 'n']
  | '\r' => ['\\', 'r']
  | '"' => ['\\', '"']
  | '\\' => ['\\', '\\']
  | c =>
    if isUnprintable c then ['\\', 'u', '\x7b'] ++ Nat.toDigits 16 c.toNat ++ ['\x7d']
    else [c]

def quoted (s : String) : String :=
  .ofList ('"' :: s.toList.flatMap escape ++ ['"'])

/-- A name between backticks, as messages show names. -/
def ticked (s : String) : String := "`" ++ s ++ "`"

end BuildOperator.Text

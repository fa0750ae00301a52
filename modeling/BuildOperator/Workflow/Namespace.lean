/-!
# Workflow namespaces

The name of the namespace in which the workflows of a project run: letters are put in lower case,
whatever is no letter of the English alphabet or digit becomes a dash, 63 characters are kept, and
dashes at both ends are dropped.
-/
namespace BuildOperator.Workflow

/-- The lower case of a character, as far as it has letters a to z: other characters in it count as
dashes. The dotted capital I becomes two characters, the Kelvin sign a letter. -/
def namespaceChars (c : Char) : List Char :=
  if c = '\u0130' then ['i', '-']
  else if c = '\u212a' then ['k']
  else if c.isAlphanum then [c.toLower]
  else ['-']

def maxNamespaceLength : Nat := 63

def trimDashes (cs : List Char) : List Char :=
  let cs := cs.dropWhile (· == '-')
  (cs.reverse.dropWhile (· == '-')).reverse

def namespaceName (raw : String) : String :=
  .ofList (trimDashes ((raw.toList.flatMap namespaceChars).take maxNamespaceLength))

end BuildOperator.Workflow

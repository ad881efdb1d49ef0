import Headset.Json.Value

/-!
# Documents for people

A document with one part on each line, indented by its depth.
-/

namespace Headset.Json

def newLine (depth : Nat) : List Char := '\n' :: List.replicate (2 * depth) ' '

mutual

/-- The characters of a document that begins at a depth. -/
def prettyChars (depth : Nat) : Json → List Char
  | .array [] => ['[', ']']
  | .array (j :: rest) =>
    '[' :: newLine (depth + 1) ++ prettyChars (depth + 1) j ++ prettyItems (depth + 1) rest ++
      newLine depth ++ [']']
  | .object [] => ['\x7b', '\x7d']
  | .object ((key, j) :: rest) =>
    '\x7b' :: newLine (depth + 1) ++ (Token.string key).text ++ ':' :: ' ' ::
      prettyChars (depth + 1) j ++ prettyMembers (depth + 1) rest ++ newLine depth ++ ['\x7d']
  | .null => Token.null.text
  | .bool b => (Token.bool b).text
  | .number text => text
  | .string body => (Token.string body).text

/-- Further items at a depth, each behind a comma. -/
def prettyItems (depth : Nat) : List Json → List Char
  | [] => []
  | j :: rest => ',' :: newLine depth ++ prettyChars depth j ++ prettyItems depth rest

/-- Further members at a depth, each behind a comma. -/
def prettyMembers (depth : Nat) : List (List Char × Json) → List Char
  | [] => []
  | (key, j) :: rest =>
    ',' :: newLine depth ++ (Token.string key).text ++ ':' :: ' ' :: prettyChars depth j ++
      prettyMembers depth rest

end

/-- The text of a document, one part on each line. -/
def pretty (j : Json) : String := String.ofList (j.prettyChars 0)

end Headset.Json

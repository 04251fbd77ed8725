import BlockHarness.Text.Basic

/-! JSON documents and their two printed forms: compact on one line, and pretty with two spaces a level. -/
namespace BlockHarness
set_option autoImplicit false

/-- A JSON document without numbers. The members of an object keep their order. -/
inductive Json where
  | null
  | boolean (value : Bool)
  | text (value : Text)
  | list (items : List Json)
  | object (members : List (Text × Json))

namespace Json

/-! ## Strings -/

/-- How one character stands in a JSON string. -/
def escapeChar (c : Char) : Text :=
  if c = '"' then "\\\""
  else if c = '\\' then "\\\\"
  else if c = '\x08' then "\\b"
  else if c = '\x0c' then "\\f"
  else if c = '\n' then "\\n"
  else if c = '\r' then "\\r"
  else if c = '\t' then "\\t"
  else if c < ' ' then ['\\', 'u', '0', '0', Text.digit (c.toNat / 16), Text.digit (c.toNat % 16)]
  else [c]

def string (t : Text) : Text := '"' :: (t.flatMap escapeChar ++ ['"'])

/-! ## Compact form -/

mutual

/-- A document on one line without blanks. -/
def compact : Json → Text
  | .null => "null"
  | .boolean b => if b then "true" else "false"
  | .text t => string t
  | .list items => "[" ++ Text.joinWith "," (compactItems items) ++ "]"
  | .object members => "\x7b" ++ Text.joinWith "," (compactMembers members) ++ "\x7d"

def compactItems : List Json → List Text
  | [] => []
  | item :: rest => compact item :: compactItems rest

def compactMembers : List (Text × Json) → List Text
  | [] => []
  | (key, value) :: rest => (string key ++ ":" ++ compact value) :: compactMembers rest

end

/-! ## Pretty form -/

/-- A line break and the indentation of a level. -/
def newline (level : Nat) : Text := '\n' :: List.replicate (2 * level) ' '

/-- Pieces between brackets, each on a line of its own one level deeper; nothing stands between the brackets when
there are no pieces. -/
def layout (level : Nat) (opening closing : Text) (pieces : List Text) : Text :=
  if pieces = [] then opening ++ closing
  else
    opening ++ newline (level + 1) ++ Text.joinWith ("," ++ newline (level + 1)) pieces ++
      newline level ++ closing

mutual

/-- A document with every item and member on a line of its own, printed at a level of nesting. -/
def prettyAt (level : Nat) : Json → Text
  | .null => "null"
  | .boolean b => if b then "true" else "false"
  | .text t => string t
  | .list items => layout level "[" "]" (prettyItems (level + 1) items)
  | .object members => layout level "\x7b" "\x7d" (prettyMembers (level + 1) members)

def prettyItems (level : Nat) : List Json → List Text
  | [] => []
  | item :: rest => prettyAt level item :: prettyItems level rest

def prettyMembers (level : Nat) : List (Text × Json) → List Text
  | [] => []
  | (key, value) :: rest => (string key ++ ": " ++ prettyAt level value) :: prettyMembers level rest

end

/-- A document with every item and member on a line of its own. -/
def pretty (j : Json) : Text := prettyAt 0 j

end Json
end BlockHarness

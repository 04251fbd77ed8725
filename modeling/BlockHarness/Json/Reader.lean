import BlockHarness.Json.Value

/-! Reading JSON documents, for all that can be written of them: documents without numbers. White space may stand
between any two tokens. A reader takes what it reads from the front of a text and gives what is left of it. -/
namespace BlockHarness.Json
set_option autoImplicit false

/-! ## Tokens -/

/-- Whether a character is white space between tokens. -/
def isGap (c : Char) : Bool := c == ' ' || c == '\n' || c == '\r' || c == '\t'

def skipGap (t : Text) : Text := t.dropWhile isGap

/-- The character that a letter behind a backslash stands for. -/
def unescape? : Char → Option Char
  | '"' => some '"'
  | '\\' => some '\\'
  | '/' => some '/'
  | 'b' => some '\x08'
  | 'f' => some '\x0c'
  | 'n' => some '\n'
  | 'r' => some '\r'
  | 't' => some '\t'
  | _ => none

/-- The character with a number in four hexadecimal digits, if it is one by itself. -/
def numbered? (digits : Text) : Option Char :=
  (Text.toNat? 16 digits).bind fun n => if n.isValidChar then some (Char.ofNat n) else none

/-- Puts a character in front of a text that has been read. -/
def consRead (c : Char) (r : Text × Text) : Text × Text := (c :: r.1, r.2)

/-- Reads a string behind its opening quote, up to its closing one. -/
def readString : Text → Option (Text × Text)
  | [] => none
  | '"' :: rest => some ([], rest)
  | '\\' :: 'u' :: a :: b :: c :: d :: rest =>
    (numbered? [a, b, c, d]).bind fun char => (readString rest).map (consRead char)
  | '\\' :: letter :: rest => (unescape? letter).bind fun char => (readString rest).map (consRead char)
  | c :: rest => if c < ' ' ∨ c = '\\' then none else (readString rest).map (consRead c)

/-- Reads one of the three words. -/
def readWord (t : Text) : Option (Json × Text) :=
  match Text.dropPrefix? "null" t, Text.dropPrefix? "true" t, Text.dropPrefix? "false" t with
  | some rest, _, _ => some (.null, rest)
  | _, some rest, _ => some (.boolean true, rest)
  | _, _, some rest => some (.boolean false, rest)
  | none, none, none => none

/-! ## Documents -/

section
variable {α : Type} (one : Text → Option (α × Text)) (closing : Char)

/-- Reads elements with commas between them, at least one, up to a closing bracket. -/
def readElements : Nat → Text → Option (List α × Text)
  | 0, _ => none
  | fuel + 1, t =>
    match one t with
    | none => none
    | some (a, rest) =>
      match skipGap rest with
      | [] => none
      | c :: rest =>
        if c = closing then some ([a], rest)
        else if c = ',' then (readElements fuel rest).map fun (elements, rest) => (a :: elements, rest)
        else none

/-- Reads what stands behind an opening bracket: elements, or none, up to the closing one. -/
def readSeries (t : Text) : Option (List α × Text) :=
  match skipGap t with
  | [] => none
  | c :: rest => if c = closing then some ([], rest) else readElements one closing t.length t

end

/-- Reads a name, a colon and a value. -/
def readMember (value : Text → Option (Json × Text)) (t : Text) : Option ((Text × Json) × Text) :=
  match skipGap t with
  | '"' :: rest =>
    (readString rest).bind fun (key, rest) =>
      match skipGap rest with
      | ':' :: rest => (value rest).map fun (j, rest) => ((key, j), rest)
      | _ => none
  | _ => none

/-- Reads a document in which brackets are nested less deep than a number. -/
def readValue : Nat → Text → Option (Json × Text)
  | 0, _ => none
  | depth + 1, t =>
    match skipGap t with
    | '"' :: rest => (readString rest).map fun (s, rest) => (.text s, rest)
    | '[' :: rest => (readSeries (readValue depth) ']' rest).map fun (items, rest) => (.list items, rest)
    | '\x7b' :: rest =>
      (readSeries (readMember (readValue depth)) '\x7d' rest).map fun (members, rest) => (.object members, rest)
    | rest => readWord rest

/-- Reads one document at the front of a text. -/
def read? (t : Text) : Option (Json × Text) := readValue (t.length + 1) t

/-- The member of an object with a name; the first one, if there are several. -/
def member? (key : Text) : Json → Option Json
  | .object members => members.lookup key
  | _ => none

end BlockHarness.Json

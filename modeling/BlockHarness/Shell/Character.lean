import BlockHarness.Text.Utf8

/-! The characters of a script: one for each octet, which is how a script sees all text. Octets above 127 belong to no
class of characters that the shell and the programs beside it tell apart. -/
namespace BlockHarness.Shell
set_option autoImplicit false

/-! ## Octets as characters -/

/-- A text with one character for each octet. -/
def ofOctets (octets : Octets) : Text := octets.map fun b => Char.ofNat b.toNat

/-- The octets of a text that has one character for each. -/
def toOctets (t : Text) : Octets := t.map fun c => c.toNat.toUInt8

/-- A text as it stands in a script. -/
def ofText (t : Text) : Text := ofOctets (Utf8.encode t)

/-- A text from a script as one that is read. -/
def toText (t : Text) : Text := Utf8.decodeLossy (toOctets t)

/-! ## Classes with a name -/

def isDigit (c : Char) : Bool := '0' ≤ c && c ≤ '9'

def isUpper (c : Char) : Bool := 'A' ≤ c && c ≤ 'Z'

def isLower (c : Char) : Bool := 'a' ≤ c && c ≤ 'z'

def isLetter (c : Char) : Bool := isUpper c || isLower c

def isSpace (c : Char) : Bool := c == ' ' || ('\t' ≤ c && c ≤ '\r')

def isBlank (c : Char) : Bool := c == ' ' || c == '\t'

/-- A character that is not printed. -/
def isControl (c : Char) : Bool := c < ' ' || c == '\x7f'

/-- A character that leaves ink. -/
def isVisible (c : Char) : Bool := '!' ≤ c && c ≤ '~'

def isHexDigit (c : Char) : Bool := isDigit c || ('a' ≤ c && c ≤ 'f') || ('A' ≤ c && c ≤ 'F')

def characterClasses : List (Text × (Char → Bool)) := [
  ("alnum", fun c => isLetter c || isDigit c), ("alpha", isLetter), ("blank", isBlank), ("cntrl", isControl),
  ("digit", isDigit), ("graph", isVisible), ("lower", isLower), ("print", fun c => isVisible c || c == ' '),
  ("punct", fun c => isVisible c && !(isLetter c || isDigit c)), ("space", isSpace), ("upper", isUpper),
  ("xdigit", isHexDigit)]

/-! ## Names and parameters -/

def isOctalDigit (c : Char) : Bool := '0' ≤ c && c ≤ '7'

/-- A character that may begin the name of a variable. -/
def isNameStart (c : Char) : Bool := isLetter c || c == '_'

/-- A character of a name behind the first one. -/
def isNameChar (c : Char) : Bool := isNameStart c || isDigit c

/-- Whether a text is the name of a variable. -/
def isName (t : Text) : Bool := t.head?.any isNameStart && t.all isNameChar

/-- A character that is the whole name of a parameter. -/
def isSpecialParameter (c : Char) : Bool := "!#$*-?@".toList.contains c || isDigit c

/-- The words that mean something where a command is due. -/
def reservedWords : List Text :=
  ["!", "case", "do", "done", "elif", "else", "esac", "fi", "for", "if", "in", "then", "until", "while", "\x7b",
    "\x7d"]

end BlockHarness.Shell

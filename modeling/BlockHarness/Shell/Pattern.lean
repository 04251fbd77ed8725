import BlockHarness.Shell.Character
import BlockHarness.World.Files

/-! Patterns of texts and of file names. A character behind a backslash stands for itself, which is how quoted text
gets into a pattern. -/
namespace BlockHarness.Shell
set_option autoImplicit false

/-! ## Guarding -/

/-- A text as a pattern that only the text itself matches. -/
def guardText (t : Text) : Text := t.flatMap fun c => ['\\', c]

/-- The text of a pattern without its guards. -/
def unguard : Text → Text
  | '\\' :: c :: rest => c :: unguard rest
  | c :: rest => c :: unguard rest
  | [] => []

/-! ## Matching -/

/-- The place of a character among those that its octet stands for; octets above 127 come first. -/
def octetOrder (c : Char) : Int := if c.toNat < 128 then c.toNat else (c.toNat : Int) - 256

/-- The class whose name and closing brackets a text starts with, and the rest. -/
def classAt? (t : Text) : Option ((Char → Bool) × Text) :=
  characterClasses.findSome? fun (name, holds) =>
    (Text.dropPrefix? ((':' : Char) :: (name ++ ([':', ']'] : Text))) t).map fun rest => (holds, rest)

/-- Reads the rest of a bracket expression: whether `c` is in it, and what follows. Nothing is read if it is not
closed. -/
def bracketHas? (c : Char) (isFirst found : Bool) : Nat → Text → Option (Bool × Text)
  | 0, _ => none
  | _, [] => none
  | fuel + 1, d :: rest =>
    if d = ']' ∧ ¬ isFirst then some (found, rest)
    else
      match if d = '[' then classAt? rest else none with
      | some (holds, rest) => bracketHas? c false (found || holds c) fuel rest
      | none =>
        let (low, rest) : Char × Text :=
          match d, rest with
          | '\\', e :: rest => (e, rest)
          | d, rest => (d, rest)
        let isBetween (high : Char) : Bool := octetOrder low ≤ octetOrder c && octetOrder c ≤ octetOrder high
        match rest with
        | '-' :: ']' :: _ => bracketHas? c false (found || c == low) fuel rest
        | '-' :: '\\' :: high :: rest => bracketHas? c false (found || isBetween high) fuel rest
        | '-' :: high :: rest => bracketHas? c false (found || isBetween high) fuel rest
        | rest => bracketHas? c false (found || c == low) fuel rest

/-- Whether a pattern matches a whole text; every step takes a character from one of them. -/
def matchesPattern : Nat → Text → Text → Bool
  | 0, _, _ => false
  | _, [], t => t.isEmpty
  | _, ['*'], _ => true
  | fuel + 1, '*' :: pattern, t =>
    matchesPattern fuel pattern t || (!t.isEmpty && matchesPattern fuel ('*' :: pattern) (t.drop 1))
  | _, _, [] => false
  | fuel + 1, '?' :: pattern, _ :: t => matchesPattern fuel pattern t
  | fuel + 1, '[' :: pattern, c :: t =>
    let isNegated := pattern.head? == some '!'
    match bracketHas? c true false (pattern.length + 1) (if isNegated then pattern.drop 1 else pattern) with
    | some (found, pattern) => found != isNegated && matchesPattern fuel pattern t
    | none => c == '[' && matchesPattern fuel pattern t
  | fuel + 1, '\\' :: d :: pattern, c :: t => c == d && matchesPattern fuel pattern t
  | fuel + 1, d :: pattern, c :: t => c == d && matchesPattern fuel pattern t

/-- Whether a pattern matches a text, which ends at its first zero character. -/
def isMatch (pattern t : Text) : Bool :=
  let t := t.takeWhile (· ≠ '\x00')
  matchesPattern (pattern.length + t.length + 1) pattern t

/-! ## Cutting -/

/-- The places in a text from its front up to its first zero character, or to its end. -/
def placesAhead (t : Text) : List Nat := List.range ((t.takeWhile (· ≠ '\x00')).length + 1)

/-- The places in a text from its end to its front. -/
def placesBack (t : Text) : List Nat := (List.range (t.length + 1)).reverse

/-- The number of characters that the shortest or longest match takes at the front of a text, if there is one. -/
def frontMatch? (longest : Bool) (pattern t : Text) : Option Nat :=
  (if longest then placesBack t else placesAhead t).find? fun n => isMatch pattern (t.take n)

/-- The place where the shortest or longest match at the end of a text starts, if there is one. -/
def endMatch? (longest : Bool) (pattern t : Text) : Option Nat :=
  (if longest then placesAhead t else placesBack t).find? fun n => isMatch pattern (t.drop n)

/-- Which end of a text is cut off. -/
inductive Side where
  | front
  | back
  deriving DecidableEq, Repr

/-- A text without what a pattern matches at one of its ends. -/
def cutMatch (side : Side) (longest : Bool) (pattern t : Text) : Text :=
  match side with
  | .front => ((frontMatch? longest pattern t).map t.drop).getD t
  | .back => ((endMatch? longest pattern t).map t.take).getD t

/-! ## File names -/

/-- Whether a bracket that opens here is closed, so that it means something. -/
def closesBracket : Text → Bool
  | [] => false
  | ['\\'] => false
  | '\\' :: _ :: rest => rest.head? == some ']' || closesBracket rest
  | _ :: rest => rest.head? == some ']' || closesBracket rest

def hasWildcard : Text → Bool
  | [] => false
  | '*' :: _ => true
  | '?' :: _ => true
  | '[' :: '!' :: rest => closesBracket rest || hasWildcard rest
  | '[' :: rest => closesBracket rest || hasWildcard rest
  | '\\' :: _ :: rest => hasWildcard rest
  | _ :: rest => hasWildcard rest

/-- The components of a pattern between separators, which may be guarded. -/
def patternNames (before : Text) : Text → List Text
  | [] => [before.reverse]
  | '/' :: rest => before.reverse :: patternNames [] rest
  | '\\' :: '/' :: rest => before.reverse :: patternNames [] rest
  | '\\' :: c :: rest => patternNames (c :: '\\' :: before) rest
  | c :: rest => patternNames (c :: before) rest

/-- The paths that lead on from the path `before` and match the components of a pattern. Names that begin with a
point have to be asked for. -/
def pathsFrom (fs : Files) (before : Text) : List Text → List Text
  | [] => []
  | [name] =>
    if hasWildcard name then (matchingNames fs before name).map (before ++ ·)
    else
      let path := before ++ unguard name
      if fs.isPresent (toText path) then [path] else []
  | name :: rest =>
    if hasWildcard name then
      (matchingNames fs before name).flatMap fun found => pathsFrom fs (before ++ found ++ ['/']) rest
    else pathsFrom fs (before ++ unguard name ++ ['/']) rest
where
  /-- The names in a directory that match a pattern. -/
  matchingNames (fs : Files) (directory pattern : Text) : List Text :=
    match fs.resolve false (toText (if directory = [] then ['.'] else directory)) with
    | .error _ => []
    | .ok l =>
      if fs.isDirectory l then
        let wantsHidden := pattern.head? == some '.' || pattern.take 2 == ['\\', '.']
        ((['.'] : Text) :: ['.', '.'] :: (fs.namesIn l).map ofText).filter fun name =>
          (wantsHidden || name.head? != some '.') && isMatch pattern name
      else []

/-- The paths that match a pattern, in order; none if it has no wildcard. -/
def matchingPaths (fs : Files) (pattern : Text) : List Text :=
  if hasWildcard pattern then
    (pathsFrom fs [] (patternNames [] pattern)).mergeSort fun a b => !(decide (b < a))
  else []

end BlockHarness.Shell

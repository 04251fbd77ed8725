/-! The first occurrence of one list in another, and the stretch between two markers.
Both are stated for lists over any alphabet, so that one search serves characters and octets alike. -/
namespace BlockHarness
set_option autoImplicit false
variable {α : Type} [DecidableEq α]

/-! ## First occurrence -/

/-- The position at which `needle` first occurs in a list whose first element stands at position `n`. -/
def firstIndexFrom? (needle : List α) (n : Nat) : List α → Option Nat
  | [] => if needle = [] then some n else none
  | c :: rest => if needle.isPrefixOf (c :: rest) then some n else firstIndexFrom? needle (n + 1) rest

/-- The position at which `needle` first occurs in `text`. -/
def firstIndex? (needle text : List α) : Option Nat := firstIndexFrom? needle 0 text

/-! ## Between two markers -/

/-- Why no stretch lies between an opening and a closing marker. -/
inductive MarkerFault where
  | missingBegin
  | missingEnd
  | outOfOrder
  deriving DecidableEq, Repr

/-- Start and end of what stands between the first opening marker and the first closing one.
Both markers are searched in the whole text; a closing marker that starts before the opening one has ended
is out of order. -/
def between (opening closing text : List α) : Except MarkerFault (Nat × Nat) :=
  match firstIndex? opening text with
  | none => .error .missingBegin
  | some start =>
    match firstIndex? closing text with
    | none => .error .missingEnd
    | some stop =>
      if stop < start + opening.length then .error .outOfOrder
      else .ok (start + opening.length, stop)

/-- The part of a list from position `start` up to position `stop`. -/
def slice (text : List α) (start stop : Nat) : List α := (text.drop start).take (stop - start)

end BlockHarness

import BlockHarness.Shell.Character
import BlockHarness.World.Files

/-! Open files. Several descriptors and several processes can share one, and with it the place that has been
reached. Time is counted in microseconds, so that what processes write side by side can be put in order. -/
namespace BlockHarness.Shell
set_option autoImplicit false

/-- Something that was written at once: when, by which process, and what. -/
structure Piece where
  time : Nat
  owner : Nat
  text : Text
  deriving DecidableEq, Repr

namespace Piece

/-- Pieces in the order of their times; of those of one time the one that came first is first. -/
def inOrder (pieces : List Piece) : List Piece := pieces.mergeSort fun a b => a.time ≤ b.time

/-- The text of pieces one after the other. -/
def textOf (pieces : List Piece) : Text := pieces.flatMap (·.text)

end Piece

/-- Whether a pipe holds all that will ever come through it. One that was cut has a writer that could go on, and
`missed` says that a reader has come to the cut. -/
inductive Supply where
  | whole
  | cut
  | missed
  deriving DecidableEq, Repr

/-- What an open file may be used for. -/
structure Access where
  reads : Bool := false
  writes : Bool := false
  appends : Bool := false
  deriving DecidableEq, Repr

/-- An open file: the end of a pipe that is read from, the end that is written to, a file, a device or a directory.
Pieces that wait to be read are in order, pieces that were written have the last one first. A pipe that is written
to may have room for so many characters only, and one that is read from is at its end from `closes` on. -/
inductive Stream where
  | arriving (pieces : List Piece) (supply : Supply) (closes : Nat)
  | leaving (pieces : List Piece) (length : Nat) (room : Option Nat)
  | file (location : Location) (place : Nat) (access : Access)
  | device (device : Device)
  | folder (location : Location)
  deriving DecidableEq, Repr

/-- What comes of an attempt to read: text, which is empty at the end, a refusal, or nothing yet. -/
inductive Received where
  | text (t : Text)
  | refused (e : Errno)
  | starved
  deriving DecidableEq, Repr

/-- What comes of an attempt to write: all is written, nothing is, or nobody reads any more. -/
inductive Written where
  | done
  | refused (e : Errno)
  | unread
  deriving DecidableEq, Repr

/-- How much is read at once: up to a number of characters, up to the end of a line, all there is, or up to a number
of those that are there together. -/
inductive Extent where
  | upTo (n : Nat)
  | line
  | all
  | block (n : Nat)
  deriving DecidableEq, Repr

namespace Extent

/-- The part of a text that is read, whether that is enough, and the rest. The count that is left is for what
follows. -/
def split (extent : Extent) (t : Text) : Text × Bool × Text × Extent :=
  match extent with
  | .all => (t, false, [], .all)
  | .upTo n | .block n => let taken := t.take n; (taken, n ≤ taken.length, t.drop n, .upTo (n - taken.length))
  | .line =>
    let line := t.takeWhile (· ≠ '\n')
    match t.drop line.length with
    | [] => (line, false, [], .line)
    | c :: rest => (line ++ [c], true, rest, .line)

/-- Takes text from pieces: what is read, whether it is enough, the time of the last piece touched, and the pieces
that are left. -/
def take (time : Nat) : Extent → List Piece → Text × Bool × Nat × List Piece
  | extent, [] => ([], extent == .upTo 0, time, [])
  | .upTo 0, pieces => ([], true, time, pieces)
  | extent, piece :: pieces =>
    let (taken, isEnough, rest, extent) := extent.split piece.text
    let time := max time piece.time
    if isEnough then (taken, true, time, if rest = [] then pieces else { piece with text := rest } :: pieces)
    else
      let (more, isEnough, time, pieces) := take time extent pieces
      (taken ++ more, isEnough, time, pieces)

/-- Takes text from pieces that are there together, given the time from which on one reads. -/
def takeBlock (n time : Nat) (pieces : List Piece) : Text × Bool × Nat × List Piece :=
  match pieces with
  | [] => ([], false, time, [])
  | first :: _ =>
    let time := max time first.time
    let here := pieces.takeWhile (·.time ≤ time)
    let (t, _, _, rest) := take time (.upTo n) here
    (t, true, time, rest ++ pieces.drop here.length)

end Extent
end BlockHarness.Shell

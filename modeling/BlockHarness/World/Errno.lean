import BlockHarness.Text.Basic

/-! Why the operating system refuses an operation on a file or a program. -/
namespace BlockHarness
set_option autoImplicit false

/-- A refusal of the operating system. -/
inductive Errno where
  | notFound
  | noDevice
  | argumentsTooLong
  | notExecutableFormat
  | badDescriptor
  | permissionDenied
  | exists
  | notDirectory
  | isDirectory
  | invalidArgument
  | noSpace
  | illegalSeek
  | outOfRange
  | nameTooLong
  | tooManyLinks
  deriving DecidableEq, Repr

namespace Errno

def code : Errno → Nat
  | .notFound => 2
  | .noDevice => 6
  | .argumentsTooLong => 7
  | .notExecutableFormat => 8
  | .badDescriptor => 9
  | .permissionDenied => 13
  | .exists => 17
  | .notDirectory => 20
  | .isDirectory => 21
  | .invalidArgument => 22
  | .noSpace => 28
  | .illegalSeek => 29
  | .outOfRange => 34
  | .nameTooLong => 36
  | .tooManyLinks => 40

def description : Errno → Text
  | .notFound => "No such file or directory"
  | .noDevice => "No such device or address"
  | .argumentsTooLong => "Argument list too long"
  | .notExecutableFormat => "Exec format error"
  | .badDescriptor => "Bad file descriptor"
  | .permissionDenied => "Permission denied"
  | .exists => "File exists"
  | .notDirectory => "Not a directory"
  | .isDirectory => "Is a directory"
  | .invalidArgument => "Invalid argument"
  | .noSpace => "No space left on device"
  | .illegalSeek => "Illegal seek"
  | .outOfRange => "Numerical result out of range"
  | .nameTooLong => "File name too long"
  | .tooManyLinks => "Too many levels of symbolic links"

/-- The description with the number behind it. -/
def message (e : Errno) : Text := e.description ++ " (os error " ++ Text.ofNat e.code ++ ")"

end Errno
end BlockHarness

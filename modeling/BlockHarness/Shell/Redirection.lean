import BlockHarness.Shell.Expansion

/-! Where the descriptors of a command lead: to files, to documents of the script, and to where others lead. -/
namespace BlockHarness.Shell
set_option autoImplicit false

/-! ## Opening -/

namespace Opening

/-- Whether a file is made where there is none. -/
def creates : Opening → Bool
  | .read => false
  | _ => true

/-- What the open file may be used for. -/
def access : Opening → Access
  | .read => { reads := true }
  | .write | .overwrite => { writes := true }
  | .append => { writes := true, appends := true }
  | .update => { reads := true, writes := true }

/-- Whether what a file holds is lost. -/
def empties : Opening → Bool
  | .write | .overwrite => true
  | _ => false

end Opening

namespace State

def openLocation (s : State) (l : Location) (opening : Opening) : Except Errno (Nat × State) :=
  match s.machine.files.at? l with
  | some .directory => if opening.creates then .error .isDirectory else .ok (s.addStream (.folder l))
  | some (.utility _) =>
    if opening.creates then .error .permissionDenied else .ok (s.addStream (.file l 0 opening.access))
  | some (.file _ _) =>
    if opening.empties then
      match s.machine.files.truncate l with
      | .error e => .error e
      | .ok files => .ok ((s.withFile l files).addStream (.file l 0 opening.access))
    else .ok (s.addStream (.file l 0 opening.access))
  | some (.device .terminal) => .error .noDevice
  | some (.device d) => .ok (s.addStream (.device d))
  | none =>
    if opening.creates then
      .ok ((s.withFile l (s.machine.files.put l (.file [] false))).addStream (.file l 0 opening.access))
    else .error .notFound

/-- Opens what a path leads to. The name of a descriptor stands for the file that this leads to. -/
def openPath (s : State) (path : Text) (opening : Opening) : Except Errno (Nat × State) := do
  let l ← s.files.resolve opening.creates (toText path)
  match s.files.at? l with
  | some (.device (.opened n)) =>
    match s.stream? n with
    | none => throw .notFound
    | some (_, .file l _ _) => s.openLocation l opening
    | some (_, .folder l) => s.openLocation l opening
    | some (k, .arriving _ _ _) => if opening.creates then throw .permissionDenied else return (k, s)
    | some (k, .leaving _ _ _) => if opening.creates then return (k, s) else throw .permissionDenied
    | some (k, .device _) => return (k, s)
  | _ => s.openLocation l opening

end State

/-- How the refusal to open a file is told. -/
def openFault (creates : Bool) (path : Text) (e : Errno) : Text :=
  let reason : Text :=
    match e with
    | .notFound | .notDirectory => if creates then "Directory nonexistent" else "No such file"
    | e => ofText e.description
  (if creates then ("cannot create " : Text) else "cannot open ") ++ path ++ ": " ++ reason

/-! ## Redirecting -/

/-- A redirection whose word has been expanded. -/
inductive Target where
  | file (descriptor : Nat) (opening : Opening) (path : Text)
  | document (descriptor : Nat) (number : Nat)
  | duplicate (descriptor : Nat) (source : Option Nat)

/-- Says that what stands for a descriptor is none. The line that is named is the one that reading has come to. -/
def failTarget {α : Type} : Run α := do
  modify fun s => { s with line := s.readLine }
  Run.fail "Syntax error: Bad fd number"

def expandTarget (run : Command → Run Text) : Redirection → Run Target
  | .file descriptor opening path => return .file descriptor opening (← expandText run path)
  | .document descriptor number => return .document descriptor number
  | .duplicate descriptor word => do
    match ← expandText run word with
    | ['-'] => return .duplicate descriptor none
    | [c] =>
      if isDigit c then return .duplicate descriptor (some (c.toNat - 48)) else failTarget
    | _ => failTarget

def redirectOne (run : Command → Run Text) (target : Target) : Run Unit := do
  let s ← get
  match target with
  | .file descriptor opening path =>
    let isKept : Bool := opening == .write && s.switches.contains .noclobber
    let entry := s.files.find (toText path)
    match isKept, entry with
    | true, .ok (.file _ _) => Run.fail (openFault true path .exists)
    | _, _ =>
      match s.openPath path opening with
      | .error e =>
        let isThere : Bool := match entry with
          | .ok _ => true
          | .error _ => false
        Run.fail (openFault (opening.creates && !(isKept && isThere)) path e)
      | .ok (n, s) => set (s.connect descriptor (some n))
  | .document descriptor number =>
    let t ← expandQuoted run ((s.documents.lookup number).getD [])
    let s ← get
    let (n, s) := s.addStream (.arriving [⟨s.clock, s.process, t⟩] .whole s.clock)
    set (s.connect descriptor (some n))
  | .duplicate descriptor source =>
    match source with
    | none => set (s.connect descriptor none)
    | some source =>
      if source = descriptor then pure ()
      else
        match s.descriptors.lookup source with
        | none => Run.fail (Text.ofNat source ++ ": " ++ Errno.badDescriptor.description)
        | some n => set (s.connect descriptor (some n))

/-- Redirects descriptors; the answer tells whether that was possible. -/
def redirect (run : Command → Run Text) (targets : List Target) : Run Bool := do
  match ← Run.attempt (targets.forM (redirectOne run)) with
  | .proceeds => return true
  | .fails => return false
  | ending => Run.stop ending

end BlockHarness.Shell

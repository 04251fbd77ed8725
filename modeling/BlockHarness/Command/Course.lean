import BlockHarness.Command.Basic

/-! Commands step by step. A response says what a command prints and what it answers; a course says besides in which
order it prints and turns to an executable, and where a failure ends it. What becomes of an executable is not decided
here: a course is followed for any way in which attempts may end. -/
namespace BlockHarness
set_option autoImplicit false

/-! ## Courses -/

/-- What a command does that can be noticed from outside. -/
inductive Deed where
  | prints (text : Text)
  | attempts (scenario : Scenario)
  deriving DecidableEq, Repr

/-- What a deed leaves on the output. -/
def Deed.printed : Deed → Text
  | .prints t => t
  | .attempts _ => []

/-- Deeds one after another, and the answer or the failure that they end with. -/
structure Course (α : Type) where
  deeds : List Deed
  answer : Except Failure α

namespace Course
variable {α β : Type}

/-- Goes on after a course, unless a failure has ended it. -/
def andThen (x : Course α) (f : α → Course β) : Course β :=
  match x.answer with
  | .ok a => ⟨x.deeds ++ (f a).deeds, (f a).answer⟩
  | .error failure => ⟨x.deeds, .error failure⟩

instance : Monad Course where
  pure a := ⟨[], .ok a⟩
  bind := andThen

/-- What is found out without being noticed. -/
def ofExcept (x : Except Failure α) : Course α := ⟨[], x⟩

def deed (d : Deed) : Course Unit := ⟨[d], .ok ()⟩

def print (t : Text) : Course Unit := deed (.prints t)

/-- A course as a response: what it prints all in all, and its answer. -/
def response (x : Course Unit) : Response := ⟨x.deeds.flatMap Deed.printed, x.answer⟩

@[simp] theorem ofExcept_ok_bind (a : α) (f : α → Course β) : (ofExcept (.ok a) >>= f) = f a := rfl

@[simp] theorem ofExcept_error_bind (failure : Failure) (f : α → Course β) :
    (ofExcept (.error failure) >>= f) = ⟨[], .error failure⟩ := rfl

@[simp] theorem mk_ok_bind (deeds : List Deed) (a : α) (f : α → Course β) :
    ((⟨deeds, .ok a⟩ : Course α) >>= f) = ⟨deeds ++ (f a).deeds, (f a).answer⟩ := rfl

@[simp] theorem deed_bind (d : Deed) (f : Unit → Course β) :
    (deed d >>= f) = ⟨d :: (f ()).deeds, (f ()).answer⟩ := rfl

end Course

/-! ## Commands -/

/-- Runs a scenario. The header is printed before the executable is turned to, and the report after it. -/
def Scenario.course (scenario : Scenario) (options : RunOptions) (color : Bool) (ends : Scenario → Attempt) :
    Course RunResult := do
  if !options.quiet then Course.print (renderPieces color (header scenario options.verbose))
  Course.deed (.attempts scenario)
  let r ← Course.ofExcept ((ends scenario).result scenario)
  if !options.quiet then Course.print (renderPieces color (report ⟨options.verbose, options.dumpBlocks⟩ r))
  return r

/-- What attempts come to in a world. -/
def World.ends (w : World) (scenario : Scenario) : Attempt := (w.attempt scenario).1

/-- Carries out a run: reads the settings, then the scenario, runs it and answers for its result. -/
def RunRequest.course (r : RunRequest) (w : World) (color : Bool) (ends : Scenario → Attempt) : Course Unit := do
  let settings ← Course.ofExcept (Settings.load w)
  let loaded ← Course.ofExcept (r.load w)
  let result ← (r.effective settings loaded).course (r.options settings) (color && settings.report.color) ends
  if r.json then Course.print (result.toJson.pretty ++ ['\n'])
  Course.ofExcept (answer (.ok result))

/-- Prints blocks between their markers, one after another. -/
def Blocks.course (blocks : Blocks) : List BlockName → Course Unit
  | [] => return
  | b :: rest => do
    Course.print b.opening
    Course.print (blocks.get b)
    Course.print b.closing
    blocks.course rest

/-- Extracts blocks: reads the captured output, finds what is asked for, and prints it. -/
def parseCourse (w : World) (file : Text) (block : Option BlockName) : Course Unit := do
  let t ← Course.ofExcept (readCaptured w file)
  match block with
  | some b =>
    let content ← Course.ofExcept ((b.find t).mapError .block)
    Course.print content
  | none =>
    let blocks ← Course.ofExcept ((Blocks.read t).mapError .block)
    blocks.course BlockName.all

/-- Carries a command out, step by step. -/
def Command.course (w : World) (color : Bool) (ends : Scenario → Attempt) : Command → Course Unit
  | .run r => r.course w color ends
  | .parse file block => parseCourse w file block

end BlockHarness

import BlockHarness.Program.Basic

/-! The program that lists files and what is in directories. Names come in the order of their octets. -/
namespace BlockHarness.Program
set_option autoImplicit false

open Shell (State Run)

namespace Listing

/-- Options whose word stands for a letter, and to which no value belongs. Those without a letter have a digit. -/
def plainWords : List LongOption :=
  let words : List (String × Char) := [("all", 'a'), ("escape", 'b'), ("directory", 'd'), ("dired", 'D'),
    ("full-time", 'l'), ("group-directories-first", '2'), ("human-readable", 'h'), ("inode", 'i'),
    ("kibibytes", 'k'), ("numeric-uid-gid", 'n'), ("no-group", 'G'), ("hide-control-chars", 'q'),
    ("reverse", 'r'), ("size", 's'), ("almost-all", 'A'), ("ignore-backups", 'B'), ("file-type", '3'),
    ("si", 'h'), ("dereference-command-line", 'H'), ("dereference-command-line-symlink-to-dir", '4'),
    ("dereference", 'L'), ("literal", 'N'), ("quote-name", 'Q'), ("recursive", 'R'), ("show-control-chars", '5'),
    ("zero", '0'), ("context", 'Z'), ("author", '6'), ("help", '7'), ("version", '8')]
  words.map fun (word, letter) => ⟨word.toList, letter, .none⟩

def options : Options where
  letters := "abcdfghiklmnopqrstuvw:xABCDFGHI:LNQRST:UXZ1"
  words := plainWords ++ [⟨"width", 'w', .required⟩, ⟨"classify", 'F', .optional⟩, ⟨"hide", '9', .required⟩,
    ⟨"ignore", 'I', .required⟩, ⟨"indicator-style", '/', .required⟩, ⟨"quoting-style", '"', .required⟩,
    ⟨"format", '=', .required⟩, ⟨"sort", '<', .required⟩, ⟨"tabsize", 'T', .required⟩,
    ⟨"time", '@', .required⟩, ⟨"time-style", '+', .required⟩, ⟨"color", '%', .optional⟩,
    ⟨"hyperlink", '&', .optional⟩, ⟨"block-size", '#', .required⟩]

/-- How names are set out: one on a line, behind commas, in columns that are read down or across, or each with its
mode, owner and size. -/
inductive Layout where
  | lines
  | commas
  | columns
  | rows
  | records
  deriving DecidableEq, Repr

/-- What decides about the order. -/
inductive Order where
  | names
  | sizes
  | extensions
  | widths
  | none
  deriving DecidableEq, Repr

inductive Quoting where
  | plain
  | escapes
  | quotes
  | marks
  | shellIfNeeded
  | shell
  deriving DecidableEq, Repr

/-- Which kinds of files have a mark behind their names: none, directories, those that are no plain files, or also
programs. -/
inductive Marking where
  | nothing
  | directories
  | kinds
  | programs
  deriving DecidableEq, Repr

structure Request where
  hidden : Bool := false
  dots : Bool := false
  asNames : Bool := false
  recurses : Bool := false
  reverses : Bool := false
  order : Order := .names
  directoriesFirst : Bool := false
  hides : List Text := []
  ignores : List Text := []
  marking : Marking := .nothing
  quoting : Quoting := .plain
  hidesControls : Bool := false
  layout : Layout := .lines
  width : Nat := 80
  tab : Nat := 8
  hasOwner : Bool := true
  hasGroup : Bool := true
  stop : Char := '\n'

/-! ## Requests -/

def layoutWords : Words Layout :=
  [(["verbose", "long"], .records), (["commas"], .commas), (["horizontal", "across"], .rows),
    (["vertical"], .columns), (["single-column"], .lines)]

def orderWords : Words Order :=
  [(["none"], .none), (["time"], .names), (["size"], .sizes), (["extension"], .extensions), (["version"], .names),
    (["width"], .widths)]

def markingWords : Words Marking :=
  [(["none"], .nothing), (["slash"], .directories), (["file-type"], .kinds), (["classify"], .programs)]

/-- The words that say when names are marked or coloured. -/
def markingTimes : Words Marking :=
  [(["always", "yes", "force"], .programs), (["never", "no", "none"], .nothing), (["auto", "tty", "if-tty"], .nothing)]

def quotingWords : Words Quoting :=
  [(["literal"], .plain), (["shell"], .shellIfNeeded), (["shell-always"], .shell),
    (["shell-escape"], .shellIfNeeded), (["shell-escape-always"], .shell), (["c"], .quotes), (["c-maybe"], .quotes),
    (["escape"], .escapes), (["locale"], .marks), (["clocale"], .quotes)]

/-- A number in a base that it shows itself; one that is too large stands for no limit. -/
def sizeOf? (t : Text) : Option Nat :=
  let n? := match t with
    | '0' :: 'x' :: digits | '0' :: 'X' :: digits => Text.toNat? 16 digits
    | '0' :: digits => if digits = [] then some 0 else Text.toNat? 8 digits
    | digits => Text.toNat? 10 digits
  n?.map fun n => if n < 9223372036854775807 then n else 0

namespace Request

/-- The request with another option, or what is wrong with its value; the flag says whether help is of use. -/
def add (r : Request) (o : Char × Option Text) : Except (Text × Bool) Request :=
  let value := o.2.getD []
  let chosen {α : Type} [BEq α] (option : Text) (words : Words α) (set : α → Request) : Except (Text × Bool) Request :=
    match meaning option words value with
    | .ok a => .ok (set a)
    | .error message => .error (message, true)
  match o.1 with
  | 'a' => .ok { r with hidden := true, dots := true }
  | 'A' => .ok { r with hidden := true, dots := false }
  | 'f' => .ok { r with hidden := true, dots := true, order := .none }
  | 'U' => .ok { r with order := .none }
  | 'S' => .ok { r with order := .sizes }
  | 'X' => .ok { r with order := .extensions }
  | 't' | 'v' => .ok { r with order := .names }
  | '<' => chosen "--sort" orderWords fun order => { r with order }
  | 'r' => .ok { r with reverses := true }
  | '2' => .ok { r with directoriesFirst := true }
  | 'd' => .ok { r with asNames := true }
  | 'R' => .ok { r with recurses := true }
  | 'B' => .ok { r with ignores := ("*~" : Text) :: ".*~" :: r.ignores }
  | 'I' => .ok { r with ignores := value :: r.ignores }
  | '9' => .ok { r with hides := value :: r.hides }
  | 'F' => if o.2.isSome then chosen "--classify" markingTimes fun marking => { r with marking }
    else .ok { r with marking := .programs }
  | '%' => if o.2.isSome then chosen "--color" markingTimes fun _ => r else .ok r
  | '3' => .ok { r with marking := .kinds }
  | 'p' => .ok { r with marking := .directories }
  | '/' => chosen "--indicator-style" markingWords fun marking => { r with marking }
  | 'Q' => .ok { r with quoting := .quotes }
  | 'b' => .ok { r with quoting := .escapes }
  | 'N' => .ok { r with quoting := .plain }
  | '"' => chosen "--quoting-style" quotingWords fun quoting => { r with quoting }
  | 'q' => .ok { r with hidesControls := true }
  | '5' => .ok { r with hidesControls := false }
  | 'm' => .ok { r with layout := .commas }
  | 'C' => .ok { r with layout := .columns }
  | 'x' => .ok { r with layout := .rows }
  | '1' => .ok { r with layout := if r.layout = .records then .records else .lines }
  | '=' => chosen "--format" layoutWords fun layout => { r with layout }
  | 'l' | 'n' => .ok { r with layout := .records }
  | 'g' => .ok { r with layout := .records, hasOwner := false }
  | 'o' => .ok { r with layout := .records, hasGroup := false }
  | 'G' => .ok { r with hasGroup := false }
  | '0' =>
    let layout := if r.layout = .records then Layout.records else .lines
    .ok { r with stop := '\x00', quoting := .plain, hidesControls := false, layout }
  | 'w' =>
    match sizeOf? value with
    | some width => .ok { r with width }
    | none => .error ("invalid line width: " ++ quoted value, false)
  | 'T' =>
    match sizeOf? value with
    | some tab => .ok { r with tab }
    | none => .error ("invalid tab size: " ++ quoted value, false)
  | _ => .ok r

end Request

/-! ## Items -/

/-- A name with what it stands for. -/
structure Item where
  name : Text
  location : Location
  entry : Entry

def Item.size (i : Item) : Nat :=
  match i.entry with
  | .file content _ => content.length
  | .directory => 4096
  | .utility _ => programImage.length
  | .device _ => 0

/-- The part of a name from its last point on. -/
def extension (name : Text) : Text :=
  let behind := name.reverse.takeWhile (· ≠ '.')
  if behind.length < name.length then '.' :: behind.reverse else []

/-- Whether a character has a shape, if only that of a blank. -/
def isPrinted (c : Char) : Bool := Shell.isVisible c || c == ' '

def nameText (r : Request) (name : Text) : Text :=
  let escape (special : Char → Bool) : Text :=
    name.flatMap fun c => if special c then ['\\', c] else if isPrinted c then [c] else escaped c
  match r.quoting with
  | .quotes => ['"'] ++ escape ("\"\\".toList.contains ·) ++ ['"']
  | .marks => quoted name
  | .escapes => escape (" \\".toList.contains ·)
  | .shellIfNeeded => if isPlainName (name.map fun c => if c = ':' then '.' else c) then name else shellQuoted name
  | .shell => shellQuoted name
  | .plain => if r.hidesControls then name.map fun c => if isPrinted c then c else '?' else name

/-- The mark behind a name that says what it stands for. -/
def markOf (r : Request) (e : Entry) : Text :=
  match e, r.marking with
  | _, .nothing => []
  | .directory, _ => ['/']
  | .file _ true, .programs | .utility _, .programs => ['*']
  | _, _ => []

def itemText (r : Request) (i : Item) : Text := nameText r i.name ++ markOf r i.entry

/-- The width of what is shown; a character without a shape has none. -/
def widthOf (t : Text) : Nat := (t.filter isPrinted).length

def sorted (r : Request) (items : List Item) : List Item :=
  let byName (a b : Item) : Bool := !(decide (b.name < a.name))
  let width (i : Item) : Nat := widthOf (nameText r i.name)
  let before (a b : Item) : Bool :=
    match r.order with
    | .sizes => b.size < a.size || (a.size = b.size && byName a b)
    | .extensions =>
      let (x, y) := (extension a.name, extension b.name)
      x < y || (x = y && byName a b)
    | .widths => width a < width b || (width a = width b && byName a b)
    | .names | .none => byName a b
  let items := if r.order = .none then items else items.mergeSort before
  let items := if r.reverses ∧ r.order ≠ .none then items.reverse else items
  if r.directoriesFirst then
    items.filter (·.entry == .directory) ++ items.filter (·.entry != .directory)
  else items

/-! ## Layouts -/

/-- Names behind commas, with a new line where one would be too long. -/
def withCommas (width : Nat) : Nat → List Text → Text
  | _, [] => ['\n']
  | 0, t :: rest => t ++ withCommas width (widthOf t) rest
  | column, t :: rest =>
    if column + widthOf t + 2 < width ∨ width = 0 then
      (", " : Text) ++ t ++ withCommas width (column + widthOf t + 2) rest
    else (",\n" : Text) ++ t ++ withCommas width (widthOf t) rest

/-- Blanks and tabs that lead from one column to another, in at most `fuel` steps. -/
def indent (tab stop : Nat) : Nat → Nat → Text
  | 0, _ => []
  | fuel + 1, column =>
    if stop ≤ column then []
    else if tab ≠ 0 ∧ (column + 1) / tab < stop / tab then
      '\t' :: indent tab stop fuel (column + (tab - column % tab))
    else ' ' :: indent tab stop fuel (column + 1)

/-- The names of a row, each but the last one filled up to the width of its column. -/
def rowText (tab start : Nat) : List Nat → List Text → Text
  | w :: ws, t :: u :: rest =>
    t ++ indent tab (start + w) w (start + widthOf t) ++ rowText tab (start + w) ws (u :: rest)
  | _, t :: _ => t
  | _, [] => []

/-- Names in columns, going down or across. -/
def inColumns (isAcross : Bool) (width tab : Nat) (names : List Text) : Text :=
  let count := names.length
  let rowsFor (columns : Nat) : Nat := (count + columns - 1) / columns
  let columnOf (columns n : Nat) : Nat := if isAcross then n % columns else n / rowsFor columns
  let widths (columns : Nat) : List Nat :=
    (List.range columns).map fun k =>
      let own := names.zipIdx.filter fun (_, n) => columnOf columns n = k
      let gap := if k + 1 = columns then 0 else 2
      own.foldl (fun w (t, _) => max w (widthOf t + gap)) 3
  let fits (columns : Nat) : Bool :=
    let sum := (widths columns).foldl (· + ·) 0
    sum < width || width = 0
  let most := if width = 0 then count else min count (max 1 (width / 3))
  let columns := ((List.range most).reverse.map (· + 1)).find? fits |>.getD 1
  let rows := rowsFor columns
  let widths := widths columns
  let row (k : Nat) : List Text :=
    if isAcross then (names.drop (k * columns)).take columns
    else names.zipIdx.filterMap fun (t, n) => if n % rows = k then some t else none
  (List.range rows).flatMap fun k => rowText tab 0 widths (row k) ++ ['\n']

/-- The number of links to an item. -/
def linksTo (fs : Files) (i : Item) : Nat :=
  if i.entry == .directory then
    2 + (fs.entries.filter fun (l, e) => e == .directory && l ≠ [] && l.dropLast = i.location).length
  else 1

/-- Items with their modes, owners and sizes. -/
def records (fs : Files) (r : Request) (items : List Item) : Text :=
  let links := items.map fun i => Text.ofNat (linksTo fs i)
  let sizes := items.map fun i => Text.ofNat i.size
  let widest (texts : List Text) : Nat := texts.foldl (fun w t => max w t.length) 0
  let right (w : Nat) (t : Text) : Text := List.replicate (w - t.length) ' ' ++ t
  let mode (e : Entry) : Text :=
    match e with
    | .directory => "drwxr-xr-x"
    | .file _ true | .utility _ => "-rwxr-xr-x"
    | .file _ false => "-rw-r--r--"
    | .device _ => "crw-rw-rw-"
  (items.zip (links.zip sizes)).flatMap fun (i, (n, size)) =>
    let owners : List Text := List.replicate ([r.hasOwner, r.hasGroup].count true) "root"
    Text.joinWith [' '] (mode i.entry :: right (widest links) n :: owners ++
      [right (widest sizes) size, "Jan  1 00:00", itemText r i]) ++ [r.stop]

/-- Items set out as they are asked for. -/
def setOut (fs : Files) (r : Request) (items : List Item) : Text :=
  let names := items.map (itemText r)
  if names = [] then []
  else
    match r.layout with
    | .lines => names.flatMap (· ++ [r.stop])
    | .commas => withCommas r.width 0 names
    | .columns => if r.width = 0 then Text.joinWith "  ".toList names ++ ['\n'] else inColumns false r.width r.tab names
    | .rows => if r.width = 0 then Text.joinWith "  ".toList names ++ ['\n'] else inColumns true r.width r.tab names
    | .records => records fs r items

/-- Whether a pattern matches a name; a point in front of it has to be in the pattern. -/
def matchesName (name pattern : Text) : Bool :=
  (name.head? != some '.' || pattern.head? == some '.') && Shell.isMatch pattern name

def itemsIn (s : State) (r : Request) (l : Location) : List Item :=
  let fs := s.files
  let dots : List Item := if r.dots then [⟨".", l, .directory⟩, ⟨"..", l.dropLast, .directory⟩] else []
  let found := (fs.namesIn l).filterMap fun name =>
    (fs.at? (l ++ [name])).map fun entry => (⟨Shell.ofText name, l ++ [name], entry⟩ : Item)
  (dots ++ found).filter fun i =>
    (r.hidden || (i.name.head? != some '.' && !r.hides.any (matchesName i.name)))
      && !r.ignores.any (matchesName i.name)

/-- The parts of a listing of directories, each with its path, and of those in them if that is asked for. -/
def directoryParts (s : State) (r : Request) : Nat → List (Text × Location) → List (Text × Text)
  | 0, _ => []
  | _, [] => []
  | fuel + 1, (path, l) :: rest =>
    let items := sorted r (itemsIn s r l)
    let deeper := if r.recurses then
        items.filterMap fun i =>
          if i.entry == .directory && i.name ≠ ['.'] && i.name ≠ ['.', '.'] then
            some ((if path.getLast? = some '/' then path else path ++ ['/']) ++ i.name, i.location)
          else none
      else []
    let blocks := items.foldl (fun n i => n + (i.size + 4095) / 4096 * 4) 0
    let total : Text := if r.layout = .records then "total " ++ Text.ofNat blocks ++ [r.stop] else []
    (path, total ++ setOut s.files r items) :: directoryParts s r fuel (deeper ++ rest)

end Listing

/-- Lists what paths lead to. -/
def listing (r : Listing.Request) (paths : List Text) : Run Unit := do
  let s ← get
  let found ← paths.filterMapM fun path => do
    match s.files.resolve false (Shell.toText path) with
    | .error e =>
      mishap (("cannot access " : Text) ++ shellQuoted path ++ ": " ++ reason e) 2
      return none
    | .ok l => return (s.files.at? l).map fun entry => (⟨path, l, entry⟩ : Listing.Item)
  let (directories, files) := (Listing.sorted r found).partition fun i => i.entry == .directory && !r.asNames
  let parts := Listing.directoryParts s r (s.machine.files.entries.length + directories.length + 1)
    (directories.map fun i => (i.name, i.location))
  let isTitled : Bool := 1 < paths.length || r.recurses
  let texts := (if files.isEmpty then [] else [Listing.setOut s.files r files]) ++ parts.map fun (path, t) =>
    (if isTitled then Listing.nameText r path ++ [':', r.stop] else []) ++ t
  Run.print (Text.joinWith [r.stop] texts)
  finishOr 2

/-- Lists files and directories. -/
def list (args : List Text) : Run Unit := do
  let a := Arguments.ofList Listing.options args
  match a.fault, a.options.foldlM Listing.Request.add {} with
  | some fault, _ => misuse fault 2
  | none, .error (fault, true) => misuse fault 1
  | none, .error (fault, false) => mishap fault 2
  | none, .ok r => listing r (if a.operands = [] then [['.']] else a.operands)

end BlockHarness.Program

import BlockHarness.Proofs.Execution
import BlockHarness.Proofs.Loading

/-! Which program is run. The text of an executable decides by itself whether it is a path that is taken as it is, a
path from a directory, or a name to be looked for: what counts is a separator that is not at the end. A scenario whose
executable is a path from its own directory names one file, whatever the search path is. -/
namespace BlockHarness
set_option autoImplicit false

namespace Path

/-! ## Ends of paths that lead nowhere -/

/-- Drops separators, and dots behind separators, from the end of a path that is given in reverse. -/
def dropTrailing : Text → Text
  | '/' :: rest => dropTrailing rest
  | '.' :: '/' :: rest => dropTrailing rest
  | t => t

/-- A path without the separators and dots at its end. -/
def trimmed (p : Text) : Text := (dropTrailing p.reverse).reverse

/-- A path comes to a shorter one when all parts at its end are dropped that lead nowhere. -/
structure TrimsTo (p t : Text) : Prop where
  exists_parts : ∃ parts : List Text, (∀ part ∈ parts, part = ['/'] ∨ part = ['/', '.']) ∧ p = t ++ parts.flatten
  not_separator : ¬ ['/'] <:+ t
  not_idle : ¬ ['/', '.'] <:+ t

theorem TrimsTo.append {p t part : Text} (h : TrimsTo p t) (hpart : part = ['/'] ∨ part = ['/', '.']) :
    TrimsTo (p ++ part) t := by
  obtain ⟨parts, hparts, rfl⟩ := h.exists_parts
  refine ⟨⟨parts ++ [part], ?_, by simp⟩, h.not_separator, h.not_idle⟩
  intro q hq
  rcases List.mem_append.mp hq with hq | hq
  · exact hparts q hq
  · exact List.mem_singleton.mp hq ▸ hpart

theorem trimsTo_reverse (t : Text) : TrimsTo t.reverse (dropTrailing t).reverse := by
  fun_induction dropTrailing t with
  | case1 rest ih => exact List.reverse_cons ▸ ih.append (.inl rfl)
  | case2 rest ih =>
    have happend : ('.' :: '/' :: rest).reverse = rest.reverse ++ ['/', '.'] := by simp
    exact happend ▸ ih.append (.inr rfl)
  | case3 t hseparator hidle =>
    refine ⟨⟨[], by simp, by simp⟩, ?_, ?_⟩
    · rintro ⟨u, hu⟩
      exact hseparator u.reverse ((List.reverse_eq_iff.mp hu.symm).trans (by simp))
    · rintro ⟨u, hu⟩
      exact hidle u.reverse ((List.reverse_eq_iff.mp hu.symm).trans (by simp))

theorem trimsTo_trimmed (p : Text) : TrimsTo p (trimmed p) := by
  have h := trimsTo_reverse p.reverse
  rwa [List.reverse_reverse] at h

example : trimmed "./x//./." = "./x" := by decide

/-! ## Names of a path -/

theorem names_append (p u : Text) :
    names (p ++ '/' :: u) = names p ++ (u.splitOn '/').filter fun piece => !isIdle piece := by
  rw [names, names, Text.splitOn_append_cons]
  cases hp : p.splitOn '/' with
  | nil => exact absurd hp (Text.splitOn_ne_nil '/' p)
  | cons first rest => simp only [List.cons_append, List.filter_append, List.append_assoc]

theorem TrimsTo.names_eq {p t : Text} (h : TrimsTo p t) : names p = names t := by
  obtain ⟨parts, hparts, rfl⟩ := h.exists_parts
  clear h
  induction parts generalizing t with
  | nil => simp
  | cons part parts ih =>
    obtain ⟨hpart, hrest⟩ := List.forall_mem_cons.mp hparts
    have hnames : names (t ++ part) = names t := by
      rcases hpart with rfl | rfl
      · rw [names_append]
        exact List.append_nil _
      · rw [names_append]
        exact List.append_nil _
    rw [List.flatten_cons, ← List.append_assoc, ih hrest, hnames]

theorem isAbsolute_append {p : Text} (hp : p ≠ []) (u : Text) : isAbsolute (p ++ u) = isAbsolute p := by
  cases p with
  | nil => exact absurd rfl hp
  | cons c p => rfl

theorem names_of_not_mem {p : Text} (h : '/' ∉ p) : names p = if p = [] then [] else [p] := by
  rw [names, Text.splitOn_of_not_mem h]
  exact List.append_nil _

theorem names_ne_nil {p : Text} (hp : p ≠ []) (h : isAbsolute p = false) : names p ≠ [] := by
  rw [names]
  cases hpieces : p.splitOn '/' with
  | nil => exact absurd hpieces (Text.splitOn_ne_nil '/' p)
  | cons first rest =>
    have hfirst : first ≠ [] := by
      rintro rfl
      rw [isAbsolute_of_splitOn hpieces hp] at h
      cases h
    simp [hfirst]

theorem names_append_name (front : Text) {name : Text} (h : '/' ∉ name) (hidle : isIdle name = false) :
    names (front ++ '/' :: name) = names front ++ [name] := by
  rw [names_append, Text.splitOn_of_not_mem h]
  simp [hidle]

theorem TrimsTo.isIdle_eq_false {p front name : Text} (h : TrimsTo p (front ++ '/' :: name)) : isIdle name = false := by
  refine Bool.eq_false_iff.mpr fun hidle => ?_
  simp only [isIdle, Bool.or_eq_true, beq_iff_eq] at hidle
  rcases hidle with rfl | rfl
  · exact h.not_separator (List.suffix_append front ['/'])
  · exact h.not_idle (List.suffix_append front ['/', '.'])

theorem TrimsTo.names_front_ne_nil {p front name : Text} (h : TrimsTo p (front ++ '/' :: name))
    (hp : isAbsolute p = false) : names front ≠ [] := by
  obtain ⟨parts, -, rfl⟩ := h.exists_parts
  have hfront : front ≠ [] := by
    rintro rfl
    cases hp
  rw [List.append_assoc, isAbsolute_append hfront] at hp
  exact names_ne_nil hfront hp

/-- A relative path has several components exactly if a separator is left when its end is trimmed. -/
theorem one_lt_depth_iff {p : Text} (h : isAbsolute p = false) : 1 < depth p ↔ '/' ∈ trimmed p := by
  have ht := trimsTo_trimmed p
  have hdepth : depth p = (names (trimmed p)).length := by
    rw [depth, h, ht.names_eq]
    exact Nat.zero_add _
  rw [hdepth]
  by_cases hmem : '/' ∈ trimmed p
  · -- the last separator: a name stands behind it, and a relative path that is not empty in front of it
    obtain ⟨u, v, hreverse, hu⟩ := List.eq_append_cons_of_mem (List.mem_reverse.mpr hmem)
    have hsplit : trimmed p = v.reverse ++ '/' :: u.reverse := (List.reverse_eq_iff.mp hreverse).trans (by simp)
    rw [hsplit] at ht
    have hfront := List.length_pos_iff.mpr (ht.names_front_ne_nil h)
    rw [hsplit, names_append_name v.reverse (mt List.mem_reverse.mp hu) ht.isIdle_eq_false, List.length_append]
    simp only [List.length_singleton, List.mem_append, List.mem_cons, true_or, or_true, iff_true]
    omega
  · rw [names_of_not_mem hmem]
    split <;> simp [hmem]

/-! ## Directories of absolute paths -/

theorem getLast?_dropIdle (pieces : List Text) : (dropIdle pieces).getLast? = pieces.getLast? := by
  fun_induction dropIdle pieces with
  | case1 piece before rest _ ih => rw [ih, List.getLast?_cons_cons]
  | case2 => rfl
  | case3 => rfl

theorem getLast?_reverse_splitOn {p : Text} (h : isAbsolute p = true) : (p.splitOn '/').reverse.getLast? = some [] := by
  cases p with
  | nil => cases h
  | cons c p =>
    obtain rfl : c = '/' := by simpa [isAbsolute] using h
    have hsplit := Text.splitOn_append_cons '/' [] p
    rw [List.getLast?_reverse]
    exact congrArg List.head? hsplit

/-- An absolute path lies in a directory whose path is absolute. -/
theorem isAbsolute_of_parent? {p directory : Text} (h : isAbsolute p = true) (hd : parent? p = some directory) :
    isAbsolute directory = true := by
  have hlast : (dropIdle (p.splitOn '/').reverse).getLast? = some [] :=
    (getLast?_dropIdle _).trans (getLast?_reverse_splitOn h)
  rw [parent?] at hd
  split at hd
  next => cases hd
  next piece he =>
    obtain rfl : piece = [] := by simpa [he] using hlast
    cases hd
  next piece rest hne he =>
    have hrest : (dropIdle rest).getLast? = some [] := by
      rw [getLast?_dropIdle]
      cases rest with
      | nil => exact (hne rfl).elim
      | cons before rest => rwa [he, List.getLast?_cons_cons] at hlast
    split at hd
    next => exact Option.some.inj hd ▸ rfl
    next hroot =>
      -- the names in front of the last one, with the empty piece of the root at their start
      have hstart : (dropIdle rest).reverse.head? = some [] := by rw [List.head?_reverse, hrest]
      cases hnames : (dropIdle rest).reverse with
      | nil => simp [hnames] at hstart
      | cons first names =>
        obtain rfl : first = [] := by simpa [hnames] using hstart
        cases names with
        | nil => exact absurd (List.reverse_eq_iff.mp hnames) hroot
        | cons name names =>
          rw [hnames] at hd
          exact Option.some.inj hd ▸ rfl

theorem join_of_isAbsolute {directory p : Text} (h : isAbsolute p = true) : join directory p = p := if_pos h

theorem join_nil (p : Text) : join [] p = p := by
  rw [join]
  split <;> rfl

theorem isAbsolute_join {directory : Text} (h : isAbsolute directory = true) (p : Text) :
    isAbsolute (join directory p) = true := by
  have hne : directory ≠ [] := by
    rintro rfl
    cases h
  rw [join]
  split
  next hp => exact hp
  next =>
    split
    · rwa [isAbsolute_append hne]
    · rwa [isAbsolute_append hne]

end Path

/-! ## Files at absolute paths -/

namespace Files

theorem walk_of_current (fs : Files) (current : Location) (mayMiss : Bool) (l : Location) (pieces : List Text) :
    walk { fs with current } mayMiss l pieces = fs.walk mayMiss l pieces := by
  have hat : ({ fs with current } : Files).at? = fs.at? := rfl
  have hdirectory : ({ fs with current } : Files).isDirectory = fs.isDirectory := rfl
  induction pieces generalizing l with
  | nil => rfl
  | cons piece rest ih => simp only [walk, hat, hdirectory, ih]

/-- What stands at the end of an absolute path does not depend on the current directory. -/
theorem find_of_current (fs : Files) (current : Location) {p : Text} (h : Path.isAbsolute p = true) :
    find { fs with current } p = fs.find p := by
  have hresolve : resolve { fs with current } false p = fs.resolve false p := by
    simp only [resolve, h, if_true, walk_of_current]
  rw [find, find, hresolve]
  rfl

end Files

/-! ## Programs on the search path -/

namespace World

/-- The path that a name has in a directory of the search path. -/
def candidate (w : World) (name directory : Text) : Text := Path.join (w.env.expandHome directory) name

/-- How looking for a name on the search path ends: in the first directory that has a program of the name, if there is
one. -/
inductive LooksUp (w : World) (name : Text) : Except LaunchReason Text → Prop where
  | noSearchPath (h : w.env.searchPath = none) : LooksUp w name (.error .noSearchPath)
  | notOnPath {path : Text} (h : w.env.searchPath = some path)
      (hnone : ∀ directory ∈ path.splitOn ':', ¬ w.files.isProgram (w.candidate name directory)) :
      LooksUp w name (.error .notOnPath)
  | found {path directory : Text} {before after : List Text} (h : w.env.searchPath = some path)
      (hpath : path.splitOn ':' = before ++ directory :: after)
      (hbefore : ∀ earlier ∈ before, ¬ w.files.isProgram (w.candidate name earlier))
      (hfound : w.files.isProgram (w.candidate name directory)) : LooksUp w name (.ok (w.candidate name directory))

variable {w : World} {x : Text}

theorem resolveProgram_of_path (h : 1 < Path.depth x ∨ Path.isAbsolute x = true) (b : Option Text) :
    w.resolveProgram x b = .ok (Path.join (b.getD []) x) := if_pos h

theorem resolveProgram_of_searchPath (h : ¬ (1 < Path.depth x ∨ Path.isAbsolute x = true)) {path : Text}
    (hpath : w.env.searchPath = some path) (b : Option Text) :
    w.resolveProgram x b =
      match (path.splitOn ':').find? fun directory => w.files.isProgram (w.candidate x directory) with
      | none => .error .notOnPath
      | some directory => .ok (w.candidate x directory) := by
  have hcandidates : w.env.candidates? x = some ((path.splitOn ':').map (w.candidate x)) := by
    rw [Environment.candidates?, hpath]
    rfl
  rw [resolveProgram, if_neg h, hcandidates]
  simp only [List.find?_map, Function.comp_def]
  cases (path.splitOn ':').find? fun directory => w.files.isProgram (w.candidate x directory) <;> rfl

/-- A name is looked for on the search path, and there only. -/
theorem resolveProgram_eq_iff (h : ¬ (1 < Path.depth x ∨ Path.isAbsolute x = true)) (b : Option Text)
    (r : Except LaunchReason Text) : w.resolveProgram x b = r ↔ w.LooksUp x r := by
  have hnone : w.env.searchPath = none → w.resolveProgram x b = .error .noSearchPath := by
    intro hpath
    rw [resolveProgram, if_neg h, Environment.candidates?, hpath, Option.map_none]
  constructor
  · rintro rfl
    cases hpath : w.env.searchPath with
    | none => exact hnone hpath ▸ .noSearchPath hpath
    | some path =>
      rw [resolveProgram_of_searchPath h hpath]
      split
      next hf => exact .notOnPath hpath (List.find?_eq_none.mp hf)
      next directory hf =>
        obtain ⟨hfound, before, after, hsplit, hbefore⟩ := List.find?_eq_some_iff_append.mp hf
        exact .found hpath hsplit (fun earlier he => by simpa using hbefore earlier he) hfound
  · intro hr
    cases hr with
    | noSearchPath hpath => exact hnone hpath
    | notOnPath hpath hmissing => rw [resolveProgram_of_searchPath h hpath, List.find?_eq_none.mpr hmissing]
    | @found path directory before after hpath hsplit hbefore hfound =>
      have hf : (path.splitOn ':').find? (fun directory => w.files.isProgram (w.candidate x directory)) =
          some directory :=
        List.find?_eq_some_iff_append.mpr
          ⟨hfound, before, after, hsplit, fun earlier he => by simpa using hbefore earlier he⟩
      rw [resolveProgram_of_searchPath h hpath, hf]

theorem execute_attempt_of_unresolved {s : Scenario} {reason : LaunchReason}
    (h : w.resolveProgram s.executable s.baseDir = .error reason) :
    (w.attempt s).1.execute s = .error (.launch s.executable reason) := by
  have hattempt : w.attempt s = (.unresolved reason, w) := by rw [attempt, h]
  rw [hattempt]
  exact Attempt.execute_of_capture_error rfl

/-- A scenario that is loaded from a file looks for its executable from the directory of the file. -/
theorem resolveProgram_of_load {f : Text} {s : Scenario} (hl : Scenario.load w f = .ok s)
    (h : 1 < Path.depth s.executable) :
    ∃ directory, Path.parent? f = some directory ∧
      ∀ w' : World, w'.resolveProgram s.executable s.baseDir = .ok (Path.join directory s.executable) := by
  obtain ⟨t, file, directory, -, -, hdirectory, rfl⟩ := Scenario.load_eq_ok_iff.mp hl
  exact ⟨directory, hdirectory, fun w' => resolveProgram_of_path (.inl h) (some directory)⟩

/-- **The program that a text stands for.** An absolute path is taken as it is. A relative one with a separator that is
not at its end is taken from the base directory, and for a scenario that is the directory of its file. Anything else is
a name, which is looked for on the search path. -/
theorem resolveProgram_by_text (x : Text) :
    (Path.isAbsolute x = true → ∀ (w : World) (b : Option Text), w.resolveProgram x b = .ok x) ∧
    (Path.isAbsolute x = false → '/' ∈ Path.trimmed x →
      (∀ (w : World) (b : Option Text),
        w.resolveProgram x b = .ok (b.elim x fun directory => Path.join directory x)) ∧
      ∀ (w : World) (f : Text) (s : Scenario), Scenario.load w f = .ok s → s.executable = x →
        ∃ directory, Path.parent? f = some directory ∧
          (∀ w' : World, w'.resolveProgram s.executable s.baseDir = .ok (Path.join directory x)) ∧
          (Path.isAbsolute f = true → ∀ (fs : Files) (current : Location),
            Files.find { fs with current } (Path.join directory x) = fs.find (Path.join directory x))) ∧
    (Path.isAbsolute x = false → '/' ∉ Path.trimmed x → ∀ w : World,
      (∀ (b : Option Text) (r : Except LaunchReason Text), w.resolveProgram x b = r ↔ w.LooksUp x r) ∧
      ∀ (s : Scenario) (reason : LaunchReason), s.executable = x → w.LooksUp x (.error reason) →
        (w.attempt s).1.execute s = .error (.launch x reason)) := by
  refine ⟨fun hx w b => ?absolute, fun hx hmem => ⟨fun w b => ?relative, ?loaded⟩, fun hx hmem w => ?name⟩
  case absolute => rw [resolveProgram_of_path (.inr hx), Path.join_of_isAbsolute hx]
  case relative =>
    rw [resolveProgram_of_path (.inl ((Path.one_lt_depth_iff hx).mpr hmem))]
    cases b with
    | none => exact congrArg Except.ok (Path.join_nil x)
    | some directory => rfl
  case loaded =>
    rintro w f s hl rfl
    obtain ⟨directory, hdirectory, hresolve⟩ := resolveProgram_of_load hl ((Path.one_lt_depth_iff hx).mpr hmem)
    refine ⟨directory, hdirectory, hresolve, fun hf fs current => ?_⟩
    exact fs.find_of_current current (Path.isAbsolute_join (Path.isAbsolute_of_parent? hf hdirectory) s.executable)
  case name =>
    have hname : ¬ (1 < Path.depth x ∨ Path.isAbsolute x = true) := by
      rw [Path.one_lt_depth_iff hx, hx]
      simp [hmem]
    refine ⟨resolveProgram_eq_iff hname, ?_⟩
    rintro s reason rfl hlookup
    exact execute_attempt_of_unresolved ((resolveProgram_eq_iff hname s.baseDir _).mpr hlookup)

/-- A program and a scenario beside it, in a directory of the search path. -/
def shelved : World where
  files.entries := [
    (["t"], .directory),
    (["t", "echo"], .file [] true),
    (["t", "echo.yaml"],
      .file (Utf8.encode "name: echo\nexecutable: ./echo\nexpect: \x7bprogram_output: hi\x7d\n") false)]
  files.current := []
  env := ⟨some "/u:/t", none, none⟩

def shelvedScenario (executable : Text) : Scenario := ⟨"echo", none, executable, [], [], ⟨"hi", none⟩, some "/t"⟩

theorem resolveProgram_by_text_shelved :
    (∀ (w : World) (b : Option Text), w.resolveProgram "/t/echo" b = .ok "/t/echo") ∧
      Scenario.load shelved "/t/echo.yaml" = .ok (shelvedScenario "./echo") ∧
      (∀ w : World, w.resolveProgram "./echo" (some "/t") = .ok "/t/./echo") ∧
      (∀ (fs : Files) (current : Location), Files.find { fs with current } "/t/./echo" = fs.find "/t/./echo") ∧
      (∀ b : Option Text, shelved.resolveProgram "echo" b = .ok "/t/echo") ∧
      (shelved.attempt (shelvedScenario "echo/.")).1.execute (shelvedScenario "echo/.") =
        .error (.launch "echo/." .notOnPath) := by
  have hload : Scenario.load shelved "/t/echo.yaml" = .ok (shelvedScenario "./echo") := by decide +kernel
  obtain ⟨directory, hdirectory, hresolve, hfind⟩ :=
    ((resolveProgram_by_text "./echo").2.1 rfl (by decide)).2 shelved "/t/echo.yaml" _ hload rfl
  obtain rfl : "/t" = directory := Option.some.inj hdirectory
  have hpath : shelved.env.searchPath = some "/u:/t" := rfl
  have hsplit : Text.splitOn ':' "/u:/t" = [("/u" : Text)] ++ ("/t" : Text) :: [] := rfl
  have hfound : shelved.LooksUp "echo" (.ok "/t/echo") := .found hpath hsplit (by decide +kernel) (by decide +kernel)
  have hmissing : shelved.LooksUp "echo/." (.error .notOnPath) := .notOnPath hpath (by decide +kernel)
  refine ⟨(resolveProgram_by_text "/t/echo").1 rfl, hload, hresolve, hfind rfl, fun b => ?_, ?_⟩
  · exact (((resolveProgram_by_text "echo").2.2 rfl (by decide) shelved).1 b _).mpr hfound
  · exact ((resolveProgram_by_text "echo/.").2.2 rfl (by decide) shelved).2 _ _ rfl hmissing

end World
end BlockHarness

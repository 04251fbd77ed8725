import BlockHarness.Run.Scenario

/-! What a printed text looks like to a reader: colour sequences do not show, and the last line that is not blank is
what the eye rests on. A report ends in its verdict, whatever texts stand in it. -/
namespace BlockHarness
set_option autoImplicit false

/-- Things that can be read back are written differently if they are different. -/
theorem injective_of_read {α β : Type} {write : α → β} (read : β → Option α) (h : ∀ a, read (write a) = some a) :
    Function.Injective write := by
  intro a b hab
  have ha := h a
  rw [hab, h b] at ha
  exact (Option.some.inj ha).symm

namespace Text

/-! ## Colour sequences -/

/-- The length of the rest of a colour sequence: digits and semicolons up to the letter that ends it. -/
def parametersLength? : Text → Option Nat
  | [] => none
  | c :: rest => if c = 'm' then some 1 else if c.isDigit ∨ c = ';' then (parametersLength? rest).map (· + 1) else none

/-- The length of the colour sequence at the front of a text. -/
def styleLength? : Text → Option Nat
  | c :: d :: rest => if c = '\x1b' ∧ d = '[' then (parametersLength? rest).map (· + 2) else none
  | _ => none

/-- A text without the characters of its colour sequences; `skip` is the number of characters that are left of one. -/
def withoutStylesFrom : Nat → Text → Text
  | _, [] => []
  | skip + 1, _ :: rest => withoutStylesFrom skip rest
  | 0, c :: rest =>
    match styleLength? (c :: rest) with
    | some n => withoutStylesFrom (n - 1) rest
    | none => c :: withoutStylesFrom 0 rest

/-- A text without its colour sequences. -/
def withoutStyles (t : Text) : Text := withoutStylesFrom 0 t

theorem withoutStyles_append_of_not_mem {t : Text} (h : '\x1b' ∉ t) (u : Text) :
    withoutStyles (t ++ u) = t ++ withoutStyles u := by
  induction t with
  | nil => rfl
  | cons c t ih =>
    have hc : c ≠ '\x1b' := fun he => h (he ▸ List.mem_cons_self)
    have ht : '\x1b' ∉ t := fun hm => h (List.mem_cons_of_mem c hm)
    have hnone : styleLength? (c :: (t ++ u)) = none := by
      cases t ++ u with
      | nil => rfl
      | cons d rest => rw [styleLength?, if_neg fun hand => hc hand.1]
    rw [withoutStyles] at ih ⊢
    rw [List.cons_append, withoutStylesFrom, hnone, ih ht]
    rfl

/-! No colour sequence goes beyond a line. -/

theorem parametersLength?_append_newline (t u : Text) : parametersLength? (t ++ '\n' :: u) = parametersLength? t := by
  induction t with
  | nil => rfl
  | cons c t ih => simp only [List.cons_append, parametersLength?, ih]

theorem parametersLength?_le {t : Text} {n : Nat} (h : parametersLength? t = some n) : n ≤ t.length := by
  induction t generalizing n with
  | nil => cases h
  | cons c t ih =>
    simp only [parametersLength?] at h
    split at h
    · cases h
      exact Nat.le_add_left ..
    · split at h
      · obtain ⟨m, hm, rfl⟩ := Option.map_eq_some_iff.mp h
        exact Nat.succ_le_succ (ih hm)
      · cases h

theorem styleLength?_append_newline (t u : Text) : styleLength? (t ++ '\n' :: u) = styleLength? t := by
  match t with
  | [] => cases u <;> simp [styleLength?]
  | [c] => simp [styleLength?]
  | c :: d :: rest => simp only [List.cons_append, styleLength?, parametersLength?_append_newline]

theorem styleLength?_le {t : Text} {n : Nat} (h : styleLength? t = some n) : n ≤ t.length := by
  match t, h with
  | c :: d :: rest, h =>
    simp only [styleLength?] at h
    split at h
    · obtain ⟨m, hm, rfl⟩ := Option.map_eq_some_iff.mp h
      exact Nat.succ_le_succ (Nat.succ_le_succ (parametersLength?_le hm))
    · cases h

/-- What is skipped at the end of a line is skipped within it, so that the next line begins anew. -/
theorem withoutStylesFrom_append_newline {skip : Nat} {t : Text} (h : skip ≤ t.length) (u : Text) :
    withoutStylesFrom skip (t ++ '\n' :: u) = withoutStylesFrom skip t ++ '\n' :: withoutStyles u := by
  induction t generalizing skip with
  | nil =>
    obtain rfl : skip = 0 := Nat.le_zero.mp h
    have hnone : styleLength? ('\n' :: u) = none := styleLength?_append_newline [] u
    simp only [List.nil_append, withoutStylesFrom, hnone, withoutStyles]
  | cons c t ih =>
    cases skip with
    | succ skip => exact ih (Nat.le_of_succ_le_succ h)
    | zero =>
      rw [List.cons_append, withoutStylesFrom, ← List.cons_append, styleLength?_append_newline, withoutStylesFrom]
      cases hn : styleLength? (c :: t) with
      | none =>
        simp only [ih (Nat.zero_le _), List.cons_append]
      | some n =>
        -- the rest of the sequence that begins here is no longer than the line
        have := styleLength?_le hn
        exact ih (by rw [List.length_cons] at this; omega)

theorem withoutStyles_append_newline (t u : Text) :
    withoutStyles (t ++ '\n' :: u) = withoutStyles t ++ '\n' :: withoutStyles u :=
  withoutStylesFrom_append_newline (Nat.zero_le _) u

/-! ## Last lines -/

/-- The last line of a text that is not blank. -/
def lastLine? (t : Text) : Option Text := (t.lines.filter fun line => !line.all isBlank).getLast?

theorem linesFrom_append_newline (line t u : Text) :
    linesFrom line (t ++ '\n' :: u) = linesFrom line (t ++ ['\n']) ++ lines u := by
  induction t generalizing line with
  | nil => rfl
  | cons c t ih =>
    by_cases hc : c = '\n'
    · subst hc
      simp only [List.cons_append, linesFrom, ih]
    · simp only [List.cons_append, linesFrom, ih]

/-- Where a text ends in whole lines with one among them that is not blank, its last line is found in them. -/
theorem lastLine?_append_newline {u line : Text} (h : lastLine? u = some line) (t : Text) :
    lastLine? (t ++ '\n' :: u) = some line := by
  rw [lastLine?, lines, linesFrom_append_newline, List.filter_append, List.getLast?_append]
  rw [lastLine?] at h
  rw [h]
  rfl

end Text

/-! ## Reports -/

/-- The line of a report that tells whether the run has passed. -/
def verdictLine (passed : Bool) : Text := if passed then "✓ Test Passed" else "✗ Test Failed"

theorem verdictLine_injective {b c : Bool} (h : verdictLine b = verdictLine c) : b = c := by
  revert b c
  decide

/-- A verdict begins on a new line, and is the only line of its own that is not blank. -/
theorem exists_renderPieces_verdict (color passed : Bool) :
    ∃ t, renderPieces color (verdict passed) = '\n' :: t ∧
      (Text.withoutStyles t).lastLine? = some (verdictLine passed) := by
  refine ⟨(renderPieces color (verdict passed)).tail, ?_⟩
  revert color passed
  decide

/-- **A report ends in its verdict.** -/
theorem lastLine?_printed (options : RunOptions) (h : options.quiet = false) (color : Bool) (scenario : Scenario)
    (r : RunResult) :
    (Text.withoutStyles (printed options color scenario (.ok r))).lastLine? = some (verdictLine r.passed) := by
  obtain ⟨t, ht, hline⟩ := exists_renderPieces_verdict color r.passed
  have hprinted : ∃ before, printed options color scenario (.ok r) = before ++ '\n' :: t := by
    rw [printed, h, ← ht]
    simp only [report, renderPieces, List.flatMap_append, ← List.append_assoc]
    exact ⟨_, rfl⟩
  obtain ⟨before, hbefore⟩ := hprinted
  rw [hbefore, Text.withoutStyles_append_newline]
  exact Text.lastLine?_append_newline hline _

end BlockHarness

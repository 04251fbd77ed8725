import BlockHarness.Proofs.Utf8
import BlockHarness.Text.Quoted

/-! Texts cut at line feeds. What ends in a line feed is cut into its lines and an empty rest; the lines of a text
hold no line feed and, if it has no carriage returns, all else of it; a quoted text holds no line feed either. -/
namespace BlockHarness.Text
set_option autoImplicit false

/-! ## Cutting -/

theorem splitStep_of_ne {sep c : Char} (h : c ≠ sep) {pieces : List Text} (hp : pieces ≠ []) :
    splitStep sep c pieces = pieces.modifyHead (c :: ·) := by
  cases pieces with
  | nil => exact absurd rfl hp
  | cons piece rest => simp [splitStep, h]

theorem splitOn_eq (sep : Char) (t : Text) : t.splitOn sep = List.splitOn sep t := by
  rw [List.splitOn_eq_splitOnP]
  induction t with
  | nil => rfl
  | cons c t ih =>
    have hcons : splitOn sep (c :: t) = splitStep sep c (splitOn sep t) := rfl
    rw [hcons, ih, List.splitOnP_cons_eq_if_modifyHead]
    by_cases hc : c = sep
    · simp [splitStep, hc]
    · rw [splitStep_of_ne hc (List.splitOnP_ne_nil _ t), if_neg (by simpa using hc)]

theorem splitOn_ne_nil (sep : Char) (t : Text) : t.splitOn sep ≠ [] := by
  rw [splitOn_eq]
  exact List.splitOn_ne_nil sep t

theorem splitOn_append_cons (sep : Char) (t u : Text) :
    splitOn sep (t ++ sep :: u) = t.splitOn sep ++ u.splitOn sep := by
  simp only [splitOn_eq, List.splitOn_eq_splitOnP]
  exact List.splitOnP_append_cons t u (beq_self_eq_true sep)

theorem splitOn_of_not_mem {sep : Char} {t : Text} (h : sep ∉ t) : t.splitOn sep = [t] := by
  rw [splitOn_eq, List.splitOn_eq_splitOnP]
  apply List.splitOnP_eq_singleton
  intro c hc
  exact beq_false_of_ne fun e => h (e ▸ hc)

/-- Lines with their line feeds. -/
def unlines (ls : List Text) : Text := ls.flatMap (· ++ ['\n'])

theorem unlines_cons (line : Text) (ls : List Text) : unlines (line :: ls) = line ++ '\n' :: unlines ls := by
  simp [unlines]

theorem unlines_append (ls ls' : List Text) : unlines (ls ++ ls') = unlines ls ++ unlines ls' := List.flatMap_append

theorem splitOn_unlines_append {ls : List Text} (h : ∀ line ∈ ls, '\n' ∉ line) (u : Text) :
    splitOn '\n' (unlines ls ++ u) = ls ++ splitOn '\n' u := by
  induction ls with
  | nil => rfl
  | cons line ls ih =>
    have hline : '\n' ∉ line := h line List.mem_cons_self
    have hls : ∀ l ∈ ls, '\n' ∉ l := fun l hl => h l (List.mem_cons_of_mem line hl)
    rw [unlines_cons, List.append_assoc, List.cons_append, splitOn_append_cons, splitOn_of_not_mem hline, ih hls]
    rfl

theorem splitOn_unlines {ls : List Text} (h : ∀ line ∈ ls, '\n' ∉ line) : splitOn '\n' (unlines ls) = ls ++ [[]] := by
  have hempty := splitOn_unlines_append h []
  rwa [List.append_nil] at hempty

/-! ## Lines of a text -/

theorem mem_of_mem_dropCarriageReturn {c : Char} {t : Text} (h : c ∈ dropCarriageReturn t) : c ∈ t := by
  fun_induction dropCarriageReturn t with
  | case1 => exact h
  | case2 => cases h
  | case3 d rest hd ih =>
    rcases List.mem_cons.mp h with rfl | h
    · exact List.mem_cons_self
    · exact List.mem_cons_of_mem d (ih h)

theorem newline_not_mem_of_mem_linesFrom {start t line : Text} (hs : '\n' ∉ start) (h : line ∈ linesFrom start t) :
    '\n' ∉ line := by
  have hreverse : ∀ {s : Text}, '\n' ∉ s → '\n' ∉ s.reverse := fun hs hm => hs (List.mem_reverse.mp hm)
  induction t generalizing start with
  | nil =>
    rw [linesFrom] at h
    split at h
    · cases h
    · rw [List.mem_singleton.mp h]
      exact hreverse hs
  | cons c t ih =>
    by_cases hc : c = '\n'
    · subst hc
      simp only [linesFrom, List.mem_cons] at h
      rcases h with rfl | h
      · exact fun hm => hreverse hs (mem_of_mem_dropCarriageReturn hm)
      · exact ih List.not_mem_nil h
    · simp only [linesFrom] at h
      exact ih (by simp [hs, Ne.symm hc]) h

theorem newline_not_mem_of_mem_lines {t line : Text} (h : line ∈ t.lines) : '\n' ∉ line :=
  newline_not_mem_of_mem_linesFrom List.not_mem_nil h

theorem dropCarriageReturn_of_not_mem {t : Text} (h : '\r' ∉ t) : dropCarriageReturn t = t := by
  fun_induction dropCarriageReturn t with
  | case1 => rfl
  | case2 => exact absurd List.mem_cons_self h
  | case3 c rest hc ih => rw [ih fun hm => h (List.mem_cons_of_mem c hm)]

theorem unlines_linesFrom {start t : Text} (hn : '\n' ∉ start) (hs : '\r' ∉ start) (h : '\r' ∉ t) :
    unlines (linesFrom start t) =
      start.reverse ++ t ++ if t.getLast?.getD (start.head?.getD '\n') = '\n' then [] else ['\n'] := by
  have hlast (c d : Char) (t : Text) : (c :: t).getLast?.getD d = t.getLast?.getD c := by
    rw [List.getLast?_cons, Option.getD_some]
  induction t generalizing start with
  | nil =>
    cases start with
    | nil => rfl
    | cons d start =>
      have hd : d ≠ '\n' := fun he => hn (he ▸ List.mem_cons_self)
      simp [linesFrom, unlines, hd]
  | cons c t ih =>
    obtain ⟨hc, ht⟩ := List.ne_and_not_mem_of_not_mem_cons h
    by_cases hfeed : c = '\n'
    · subst hfeed
      have hkept : dropCarriageReturn start.reverse = start.reverse :=
        dropCarriageReturn_of_not_mem fun hm => hs (List.mem_reverse.mp hm)
      rw [linesFrom, hkept, unlines_cons, ih List.not_mem_nil List.not_mem_nil ht, hlast, List.head?_nil, Option.getD_none]
      simp
    · have hnext : linesFrom start (c :: t) = linesFrom (c :: start) t := by simp only [linesFrom]
      rw [hnext, ih (List.not_mem_cons_of_ne_of_not_mem (Ne.symm hfeed) hn)
        (List.not_mem_cons_of_ne_of_not_mem hc hs) ht, hlast, List.head?_cons, Option.getD_some]
      simp

/-- The lines hold all of a text without carriage returns. Only whether a last line was ended is not seen in them. -/
theorem unlines_lines {t : Text} (h : '\r' ∉ t) :
    unlines t.lines = if t = [] ∨ t.getLast? = some '\n' then t else t ++ ['\n'] := by
  have hfrom := unlines_linesFrom List.not_mem_nil List.not_mem_nil h
  rw [lines, hfrom]
  cases hlast : t.getLast? with
  | none => simp [List.getLast?_eq_none_iff.mp hlast]
  | some c =>
    have hne : t ≠ [] := fun he => by simp [he] at hlast
    by_cases hc : c = '\n' <;> simp [hne, hc]

/-! ## Quoted texts -/

/-- Whether a character is a control character of ASCII. -/
def isControl (c : Char) : Bool := c.toNat < 0x20 || c.toNat == 0x7F

theorem isControl_of_not_isHidden {c : Char} (h : isHidden c = false) : isControl c = false := by
  rw [isHidden] at h
  by_cases hc : c.toNat < 0x7F
  · simp only [if_pos hc, decide_eq_false_iff_not] at h
    simp only [isControl, Bool.or_eq_false_iff, decide_eq_false_iff_not, beq_eq_false_iff_ne]
    exact ⟨h, by omega⟩
  · have hne : c.toNat ≠ 0x7F := by
      intro he
      rw [he] at h
      exact absurd h (by decide +kernel)
    simp only [isControl, Bool.or_eq_false_iff, decide_eq_false_iff_not, beq_eq_false_iff_ne]
    exact ⟨by omega, hne⟩

/-- Whether a text is free of controls. -/
def IsPlain (t : Text) : Prop := ∀ c ∈ t, isControl c = false

instance (t : Text) : Decidable t.IsPlain := List.decidableBAll (fun c => isControl c = false) t

theorem isPlain_cons {c : Char} {t : Text} : IsPlain (c :: t) ↔ isControl c = false ∧ t.IsPlain :=
  List.forall_mem_cons

theorem isPlain_append {t u : Text} : IsPlain (t ++ u) ↔ t.IsPlain ∧ u.IsPlain := List.forall_mem_append

theorem IsPlain.not_mem {t : Text} (h : t.IsPlain) {c : Char} (hc : isControl c = true) : c ∉ t := by
  intro hm
  rw [h c hm] at hc
  cases hc

theorem isControl_digit (d : Fin 16) : isControl (digit d) = false := by
  revert d
  decide

theorem isPlain_digitsOnto (fuel n : Nat) {rest : Text} (h : rest.IsPlain) : (digitsOnto 16 fuel n rest).IsPlain := by
  induction fuel generalizing n rest with
  | zero => exact h
  | succ fuel ih =>
    have hcons : ∀ d < 16, IsPlain (digit d :: rest) := fun d hd => isPlain_cons.mpr ⟨isControl_digit ⟨d, hd⟩, h⟩
    rw [digitsOnto]
    split
    next hn => exact hcons n hn
    next => exact ih _ (hcons (n % 16) (Nat.mod_lt n (by decide)))

theorem isPlain_quoteChar (c : Char) : (quoteChar c).IsPlain := by
  unfold quoteChar
  refine
    iteInduction (fun _ => by decide) fun _ => iteInduction (fun _ => by decide) fun _ =>
    iteInduction (fun _ => by decide) fun _ => iteInduction (fun _ => by decide) fun _ =>
    iteInduction (fun _ => by decide) fun _ => iteInduction (fun _ => by decide) fun _ =>
    iteInduction (fun _ => ?hidden) fun hc => ?shown
  case hidden =>
    have hdigits : (ofNatHex c.toNat).IsPlain := isPlain_digitsOnto _ _ (by decide)
    exact isPlain_append.mpr ⟨isPlain_append.mpr ⟨by decide, hdigits⟩, by decide⟩
  case shown => exact isPlain_cons.mpr ⟨isControl_of_not_isHidden (Bool.eq_false_iff.mpr hc), by decide⟩

/-- A quoted text is printed without controls. -/
theorem isPlain_quoted (t : Text) : t.quoted.IsPlain := by
  have hbody : IsPlain (t.flatMap quoteChar) := by
    intro c hc
    obtain ⟨d, -, hd⟩ := List.mem_flatMap.mp hc
    exact isPlain_quoteChar d c hd
  exact isPlain_cons.mpr ⟨by decide, isPlain_append.mpr ⟨hbody, by decide⟩⟩

/-- A quoted text stays on one line. -/
theorem newline_not_mem_quoted (t : Text) : '\n' ∉ t.quoted := (isPlain_quoted t).not_mem (by decide)

end BlockHarness.Text

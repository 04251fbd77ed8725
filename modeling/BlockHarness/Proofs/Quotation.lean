import BlockHarness.Json.Reader
import BlockHarness.Proofs.Occurrence
import BlockHarness.Proofs.ReportLines

/-! Quoted texts read back. Every character between the quotes is either itself or an escape that names it, so that the
closing quote is found and the text is recovered, whatever follows it. A mismatch is told from every other one by its
message, and both of its texts can be read off the lines of a report, in colour or without. -/
namespace BlockHarness
set_option autoImplicit false

namespace Text
open Json (consRead)

/-! ## Reading quoted texts -/

/-- Where a reader stands between quotes: at a character, behind a backslash, behind the letter that announces a
number, or within the number, with what has been read of it. -/
inductive QuoteState where
  | character
  | escape
  | brace
  | number (n : Nat)
  deriving DecidableEq, Repr

/-- The character that is meant by one behind a backslash. -/
def meant (c : Char) : Char :=
  if c = '0' then '\x00' else if c = 't' then '\t' else if c = 'r' then '\r' else if c = 'n' then '\n' else c

/-- Reads up to the closing quote and gives what is left behind it. -/
def unquoteFrom : QuoteState → Text → Option (Text × Text)
  | _, [] => none
  | .character, c :: rest =>
    if c = '"' then some ([], rest)
    else if c = '\\' then unquoteFrom .escape rest
    else (unquoteFrom .character rest).map (consRead c)
  | .escape, c :: rest =>
    if c = 'u' then unquoteFrom .brace rest else (unquoteFrom .character rest).map (consRead (meant c))
  | .brace, c :: rest => if c = '\x7b' then unquoteFrom (.number 0) rest else none
  | .number n, c :: rest =>
    if c = '\x7d' then (unquoteFrom .character rest).map (consRead (Char.ofNat n))
    else (digitValue? c).bind fun d => unquoteFrom (.number (n * 16 + d)) rest

/-- Reads a quoted text at the front of a text. -/
def unquote : Text → Option (Text × Text)
  | '"' :: rest => unquoteFrom .character rest
  | _ => none

theorem digitValue?_digit (d : Fin 16) : digit d ≠ '\x7d' ∧ digitValue? (digit d) = some d.val := by
  revert d
  decide

theorem unquoteFrom_digit (n : Nat) {d : Nat} (h : d < 16) (rest : Text) :
    unquoteFrom (.number n) (digit d :: rest) = unquoteFrom (.number (n * 16 + d)) rest := by
  obtain ⟨hbrace, hvalue⟩ := digitValue?_digit ⟨d, h⟩
  simp only [unquoteFrom, if_neg hbrace, hvalue, Option.bind_some]

/-- The digits of a number are read as the number. -/
theorem unquoteFrom_digitsOnto {fuel n : Nat} (h : n < fuel) (rest : Text) :
    unquoteFrom (.number 0) (digitsOnto 16 fuel n rest) = unquoteFrom (.number n) rest := by
  induction fuel generalizing n rest with
  | zero => exact absurd h (Nat.not_lt_zero n)
  | succ fuel ih =>
    rw [digitsOnto]
    split
    next hn => rw [unquoteFrom_digit 0 hn, Nat.zero_mul, Nat.zero_add]
    next hn =>
      -- the last digit is written first, and read behind the number without it
      have hless : n / 16 < fuel := by omega
      rw [ih hless, unquoteFrom_digit (n / 16) (Nat.mod_lt n (by decide)), Nat.div_add_mod']

theorem digitsOnto_append (base fuel n : Nat) (rest u : Text) :
    digitsOnto base fuel n rest ++ u = digitsOnto base fuel n (rest ++ u) := by
  induction fuel generalizing n rest with
  | zero => rfl
  | succ fuel ih =>
    simp only [digitsOnto]
    split
    · rfl
    · exact ih _ _

/-- Between quotes, a character is written as a piece of text. -/
def WrittenAs (c : Char) (piece : Text) : Prop :=
  ∀ rest, unquoteFrom .character (piece ++ rest) = (unquoteFrom .character rest).map (consRead c)

theorem writtenAs_self {c : Char} (hquote : c ≠ '"') (hslash : c ≠ '\\') : WrittenAs c [c] := by
  intro rest
  simp only [List.singleton_append, unquoteFrom, if_neg hquote, if_neg hslash]

theorem writtenAs_number (c : Char) : WrittenAs c (['\\', 'u', '\x7b'] ++ ofNatHex c.toNat ++ ['\x7d']) := by
  intro rest
  have hdigits : unquoteFrom (.number 0) (ofNatHex c.toNat ++ '\x7d' :: rest) =
      unquoteFrom (.number c.toNat) ('\x7d' :: rest) := by
    rw [ofNatHex, digitsOnto_append]
    exact unquoteFrom_digitsOnto (Nat.lt_succ_self _) _
  calc unquoteFrom .character (['\\', 'u', '\x7b'] ++ ofNatHex c.toNat ++ ['\x7d'] ++ rest)
      = unquoteFrom (.number 0) (ofNatHex c.toNat ++ '\x7d' :: rest) := by
        rw [List.append_assoc, List.append_assoc]
        rfl
    _ = unquoteFrom (.number c.toNat) ('\x7d' :: rest) := hdigits
    _ = (unquoteFrom .character rest).map (consRead (Char.ofNat c.toNat)) := rfl
    _ = (unquoteFrom .character rest).map (consRead c) := by rw [Char.ofNat_toNat]

theorem writtenAs_quoteChar (c : Char) : WrittenAs c (quoteChar c) := by
  unfold quoteChar
  refine
    iteInduction (fun h => ?zero) fun _ => iteInduction (fun h => ?tab) fun _ =>
    iteInduction (fun h => ?carriageReturn) fun _ => iteInduction (fun h => ?newline) fun _ =>
    iteInduction (fun h => ?quote) fun hquote => iteInduction (fun h => ?backslash) fun hbackslash =>
    iteInduction (fun _ => ?number) fun _ => ?itself
  case zero | tab | carriageReturn | newline | quote | backslash =>
    subst h
    exact fun _ => rfl
  case number => exact writtenAs_number c
  case itself => exact writtenAs_self hquote hbackslash

theorem unquote_quoted (t rest : Text) : unquote (t.quoted ++ rest) = some (t, rest) := by
  have hbody : unquoteFrom .character (t.flatMap quoteChar ++ '"' :: rest) = some (t, rest) := by
    induction t with
    | nil => rfl
    | cons c t ih =>
      rw [List.flatMap_cons, List.append_assoc, writtenAs_quoteChar c, ih]
      rfl
  rw [quoted, List.cons_append, List.append_assoc]
  exact hbody

theorem unquote_quoted_self (t : Text) : unquote t.quoted = some (t, []) := by
  have h := unquote_quoted t []
  rwa [List.append_nil] at h

theorem quoted_injective : Function.Injective quoted := by
  refine injective_of_read (fun t => (unquote t).map Prod.fst) fun t => ?_
  rw [unquote_quoted_self, Option.map_some]

theorem dropPrefix?_append (front t : Text) : dropPrefix? front (front ++ t) = some t := by
  rw [dropPrefix?, if_pos (List.isPrefixOf_iff_prefix.mpr (List.prefix_append front t)), List.drop_left]

end Text

/-! ## Messages -/

/-- What a message says in front of the texts. -/
def ComparedField.announcement (field : ComparedField) : Text := "wrong " ++ field.block.literal ++ ": got "

namespace Mismatch

/-- The mismatch that a message is about. -/
def ofMessage? (t : Text) : Option Mismatch :=
  ComparedField.all.findSome? fun field =>
    (Text.dropPrefix? field.announcement t).bind fun t =>
    (Text.unquote t).bind fun (actual, t) =>
    (Text.dropPrefix? ", expected " t).bind fun t =>
    (Text.unquote t).bind fun (expected, t) =>
    if t = [] then some ⟨field, actual, expected⟩ else none

theorem message_eq (m : Mismatch) :
    m.message = m.field.announcement ++ (m.actual.quoted ++ ((", expected " : Text) ++ m.expected.quoted)) := by
  have hmessage : m.message =
      m.field.announcement ++ m.actual.quoted ++ (", expected " : Text) ++ m.expected.quoted := rfl
  rw [hmessage, List.append_assoc, List.append_assoc]

theorem ofMessage?_message (m : Mismatch) : ofMessage? m.message = some m := by
  have hread := Text.dropPrefix?_append m.field.announcement
    (m.actual.quoted ++ ((", expected " : Text) ++ m.expected.quoted))
  rw [message_eq]
  obtain ⟨field, actual, expected⟩ := m
  cases field with
  | programOutput =>
    simp only [ofMessage?, ComparedField.all, List.findSome?_cons, hread, Option.bind_some, Text.unquote_quoted,
      Text.dropPrefix?_append, Text.unquote_quoted_self, if_true]
  | readBuffer =>
    have hother (t : Text) : Text.dropPrefix? (ComparedField.programOutput.announcement)
        (ComparedField.readBuffer.announcement ++ t) = none := rfl
    simp only [ofMessage?, ComparedField.all, List.findSome?_cons, hother, hread, Option.bind_some, Option.bind_none,
      Text.unquote_quoted, Text.dropPrefix?_append, Text.unquote_quoted_self, if_true]

theorem message_injective : Function.Injective message := injective_of_read ofMessage? ofMessage?_message

theorem isPlain_message (m : Mismatch) : Text.IsPlain m.message := by
  have hfront : Text.IsPlain m.field.announcement := by cases m.field <;> decide
  have hcomma : Text.IsPlain ", expected " := by decide
  rw [message_eq]
  simp only [Text.isPlain_append]
  exact ⟨hfront, Text.isPlain_quoted m.actual, hcomma, Text.isPlain_quoted m.expected⟩

end Mismatch

/-! ## Lines of a report, in colour or without -/

theorem withoutStyles_sequence (style : Style) (u : Text) :
    Text.withoutStyles (escapeSequence style.code ++ u) = Text.withoutStyles u := by
  cases style <;> rfl

theorem withoutStyles_render (color : Bool) {p : Piece} (h : '\x1b' ∉ p.render false) (u : Text) :
    Text.withoutStyles (p.render color ++ u) = p.render false ++ Text.withoutStyles u := by
  match color, p with
  | _, .plain t => exact Text.withoutStyles_append_of_not_mem h u
  | false, .styled _ t => exact Text.withoutStyles_append_of_not_mem h u
  | true, .styled style t =>
    have ht : '\x1b' ∉ t := h
    have hreset : firstIndex? resetSequence t = none := by
      refine (firstIndex?_eq_none_iff _ t).mpr fun hin => ?_
      exact ht (hin.subset List.mem_cons_self)
    have hrender : (Piece.styled style t).render true = escapeSequence style.code ++ (t ++ resetSequence) := by
      simp only [Piece.render, hreset, Option.isSome_none, if_true, Bool.false_eq_true, if_false, List.append_assoc]
    rw [hrender, List.append_assoc, withoutStyles_sequence, List.append_assoc, Text.withoutStyles_append_of_not_mem ht]
    rfl

theorem withoutStyles_renderPieces (color : Bool) {ps : List Piece} (h : '\x1b' ∉ renderPieces false ps) (u : Text) :
    Text.withoutStyles (renderPieces color ps ++ u) = renderPieces false ps ++ Text.withoutStyles u := by
  induction ps with
  | nil => rfl
  | cons p ps ih =>
    simp only [renderPieces, List.flatMap_cons, List.mem_append, not_or] at h ih ⊢
    rw [List.append_assoc, withoutStyles_render color h.1, ih h.2, List.append_assoc]

namespace Mismatch

/-- The two lines of a report that tell what was found and what was expected. -/
def textLines (actual expected : Text) : List Text := ["        actual:   " ++ actual, "        expected: " ++ expected]

def quotedLines (m : Mismatch) : List Text := textLines m.actual.quoted m.expected.quoted

def textPieces (m : Mismatch) : List Piece :=
  styledLine "        actual:   " .bad m.actual.quoted ++ styledLine "        expected: " .good m.expected.quoted

theorem renderPieces_textPieces (m : Mismatch) : renderPieces false m.textPieces = Text.unlines m.quotedLines := by
  simp [textPieces, quotedLines, textLines, renderPieces, styledLine, Piece.render, Text.unlines]

theorem isPlain_of_mem_quotedLines (m : Mismatch) : ∀ line ∈ m.quotedLines, Text.IsPlain line := by
  have hactual : Text.IsPlain "        actual:   " := by decide
  have hexpected : Text.IsPlain "        expected: " := by decide
  intro line h
  simp only [quotedLines, textLines, List.mem_cons, List.not_mem_nil, or_false] at h
  rcases h with rfl | rfl
  · exact Text.isPlain_append.mpr ⟨hactual, Text.isPlain_quoted m.actual⟩
  · exact Text.isPlain_append.mpr ⟨hexpected, Text.isPlain_quoted m.expected⟩

theorem escape_not_mem_textPieces (m : Mismatch) : '\x1b' ∉ renderPieces false m.textPieces := by
  rw [renderPieces_textPieces]
  intro h
  obtain ⟨line, hline, h⟩ := List.mem_flatMap.mp h
  rcases List.mem_append.mp h with h | h
  · exact (m.isPlain_of_mem_quotedLines line hline).not_mem (by decide) h
  · exact absurd h (by decide)

theorem exists_mismatchLines_eq (verbose : Bool) (m : Mismatch) :
    ∃ heading raw, mismatchLines verbose m = plainLine heading :: (m.textPieces ++ raw) := ⟨_, _, rfl⟩

/-- Whatever is printed around a mismatch, in full or not, both of its texts stand in lines of their own. -/
theorem exists_splitOn_eq (color verbose : Bool) (m : Mismatch) (before after : Text) :
    ∃ above below,
      Text.splitOn '\n' (Text.withoutStyles (before ++ renderPieces color (mismatchLines verbose m) ++ after)) =
        above ++ m.quotedLines ++ below := by
  obtain ⟨heading, raw, hpieces⟩ := m.exists_mismatchLines_eq verbose
  have hnewline : ∀ line ∈ m.quotedLines, '\n' ∉ line :=
    fun line h => (m.isPlain_of_mem_quotedLines line h).not_mem (by decide)
  have hprinted : before ++ renderPieces color (mismatchLines verbose m) ++ after =
      (before ++ heading) ++ '\n' :: (renderPieces color m.textPieces ++ (renderPieces color raw ++ after)) := by
    rw [hpieces]
    simp [renderPieces, plainLine, Piece.render]
  rw [hprinted, Text.withoutStyles_append_newline, withoutStyles_renderPieces color m.escape_not_mem_textPieces,
    renderPieces_textPieces, Text.splitOn_append_cons, Text.splitOn_unlines_append hnewline, ← List.append_assoc]
  exact ⟨_, _, rfl⟩

end Mismatch

namespace RunResult
variable {r : RunResult} {m : Mismatch}

theorem mismatchLines_infix_report (options : ReportOptions) (hr : r.failedStage ≠ none) (hm : m ∈ r.mismatches) :
    mismatchLines options.verbose m <:+: report options r := by
  obtain ⟨failed, hfailed⟩ := Option.ne_none_iff_exists'.mp hr
  have hfailure : mismatchLines options.verbose m <:+: failureLines options.verbose r := by
    rw [failureLines, List.flatMap_def]
    exact (List.infix_of_mem_flatten (List.mem_map_of_mem hm)).trans (List.suffix_append _ _).isInfix
  have hstages : failureLines options.verbose r <:+ stageLines options.verbose r Stage.all := by
    rw [stageLines_of_some options.verbose hfailed (by cases failed <;> decide)]
    exact List.suffix_append _ _
  have hreport : stageLines options.verbose r Stage.all <+: report options r := by
    rw [report, List.append_assoc]
    exact List.prefix_append _ _
  exact (hfailure.trans hstages.isInfix).trans hreport.isInfix

end RunResult

namespace Mismatch

/-- A mismatch can be seen in a text: two lines of it show quoted texts, which are read as those of the mismatch and
are not the same if those differ. -/
def SeenIn (m : Mismatch) (t : Text) : Prop :=
  ∃ above actual expected below,
    t.splitOn '\n' = above ++ textLines actual expected ++ below ∧
      Text.unquote actual = some (m.actual, []) ∧ Text.unquote expected = some (m.expected, []) ∧
      (m.actual ≠ m.expected → actual ≠ expected)

/-- **No two mismatches look the same.** The message of a mismatch is on one line without controls and tells it from
every other one, and the report of a run shows both texts so that they can be read back. -/
theorem seen_and_told (options : RunOptions) (hq : options.quiet = false) (color : Bool) (scenario : Scenario) :
    (∀ m m' : Mismatch, m.message = m'.message ↔ m = m') ∧ (∀ m : Mismatch, Text.IsPlain m.message) ∧
      ∀ r : RunResult, r.failedStage ≠ none → ∀ m ∈ r.mismatches,
        m.SeenIn (Text.withoutStyles (printed options color scenario (.ok r))) := by
  refine ⟨fun _ _ => message_injective.eq_iff, isPlain_message, fun r hr m hm => ?_⟩
  obtain ⟨before, after, hreport⟩ := RunResult.mismatchLines_infix_report ⟨options.verbose, options.dumpBlocks⟩ hr hm
  have hprinted : printed options color scenario (.ok r) =
      renderPieces color (header scenario options.verbose ++ before) ++
        renderPieces color (mismatchLines options.verbose m) ++ renderPieces color after := by
    simp only [printed, hq, Bool.false_eq_true, if_false, ← hreport, renderPieces_append, List.append_assoc]
  obtain ⟨above, below, hlines⟩ := m.exists_splitOn_eq color options.verbose
    (renderPieces color (header scenario options.verbose ++ before)) (renderPieces color after)
  refine ⟨above, m.actual.quoted, m.expected.quoted, below, ?_, Text.unquote_quoted_self _, Text.unquote_quoted_self _,
    fun h => mt Text.quoted_injective.eq_iff.mp h⟩
  rw [hprinted, hlines, quotedLines]

/-- A carriage return is all that tells the two texts apart. -/
def returned : Mismatch := ⟨.programOutput, "1\r\n", "1\n"⟩

def returnedResult : RunResult := .compared "reference" ⟨[], [], "1\r\n", "yankee"⟩ [returned]

theorem seen_and_told_returned :
    returnedResult.failedStage ≠ none ∧ returned ∈ returnedResult.mismatches ∧ returned.actual ≠ returned.expected ∧
      returned.SeenIn
        (Text.withoutStyles (printed ⟨true, true, false⟩ true Scenario.reference (.ok returnedResult))) := by
  have hr : returnedResult.failedStage ≠ none := by decide
  have hm : returned ∈ returnedResult.mismatches := List.mem_singleton_self returned
  exact ⟨hr, hm, by decide,
    (seen_and_told ⟨true, true, false⟩ rfl true Scenario.reference).2.2 returnedResult hr returned hm⟩

end Mismatch

end BlockHarness

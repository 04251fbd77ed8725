import BlockHarness.Proofs.Tables

/-! Records of two fields. A field is given or not, in a table by name or in a list by position, and each is read by
itself; one that is not given has its default. -/
namespace BlockHarness.Toml
set_option autoImplicit false
open Data

/-! ## Keys -/

namespace Entries
variable {es es' : Entries}

theorem IsTree.lookup_eq_some_iff (h : es.IsTree) {key : Text} {value : Value} :
    es.lookup key = some value ↔ (key, value) ∈ es := by
  refine ⟨mem_of_lookup_eq_some, fun hmem => ?_⟩
  obtain ⟨before, after, rfl⟩ := List.append_of_mem hmem
  refine List.lookup_eq_some_iff.mpr ⟨before, after, rfl, fun entry hentry => bne_iff_ne.mpr fun e => ?_⟩
  have hkeys := h.keys
  rw [List.map_append, List.map_cons] at hkeys
  have hdisjoint := (List.nodup_append.mp hkeys).2.2
  exact hdisjoint entry.1 (List.mem_map_of_mem hentry) key List.mem_cons_self e.symm

theorem lookup_eq_of_perm (h : es.IsTree) (h' : es'.IsTree) (hperm : es.Perm es') (key : Text) :
    es.lookup key = es'.lookup key := by
  refine Option.ext fun value => ?_
  rw [h.lookup_eq_some_iff, h'.lookup_eq_some_iff, hperm.mem_iff]

theorem lookup_cons_of_ne {key key' : Text} (h : key ≠ key') (value : Value) (es : Entries) :
    List.lookup key ((key', value) :: es) = es.lookup key := by
  rw [List.lookup_cons, beq_eq_false_iff_ne.mpr h]

theorem lookup_cons_self (key : Text) (value : Value) (es : Entries) :
    List.lookup key ((key, value) :: es) = some value := by
  rw [List.lookup_cons, beq_self_eq_true]

end Entries

/-! ## Records of two fields -/

/-- What a field holds before and after the value of its name has been read, if there is one. -/
def Reads {α : Type} (read : Value → Except Fault α) (held : Option α) (given : Option Value) (after : Option α) : Prop :=
  match given with
  | none => after = held
  | some value => ∃ a, read value = .ok a ∧ after = some a

/-- How a record of two fields is read, one entry after the other. -/
structure TakesTwo {α β σ : Type} (mk : Option α → Option β → σ) (first second : Text)
    (readFirst : Value → Except Fault α) (readSecond : Value → Except Fault β)
    (take : σ → Text → Value → Except Fault σ) : Prop where
  ne : first ≠ second
  take_eq : ∀ a b name value, take (mk a b) name value =
    if name = first then (readFirst value).map fun x => mk (some x) b
    else if name = second then (readSecond value).map fun y => mk a (some y)
    else .ok (mk a b)

/-- **Entries in one pass.** Where no key is given twice, each field is read from the value of its name. -/
theorem TakesTwo.decodeFields_eq_ok_iff {α β σ : Type} {mk : Option α → Option β → σ} {first second : Text}
    {readFirst : Value → Except Fault α} {readSecond : Value → Except Fault β} {take : σ → Text → Value → Except Fault σ}
    (htake : TakesTwo mk first second readFirst readSecond take) {es : Entries} (hkeys : (es.map (·.1)).Nodup)
    {a : Option α} {b : Option β} {final : σ} :
    decodeFields take (mk a b) es = .ok final ↔
      ∃ a' b', mk a' b' = final ∧ Reads readFirst a (es.lookup first) a' ∧ Reads readSecond b (es.lookup second) b' := by
  induction es generalizing a b with
  | nil => simp [decodeFields, Reads]
  | cons entry es ih =>
    obtain ⟨name, value⟩ := entry
    obtain ⟨hfresh, hrest⟩ := List.nodup_cons.mp hkeys
    -- no entry behind this one has its name, so the field that it fills is left as it is
    have hnone : es.lookup name = none := Entries.lookup_eq_none_iff.mpr hfresh
    rw [decodeFields, bind_eq_ok_iff, htake.take_eq]
    by_cases hfirst : name = first
    · subst hfirst
      rw [if_pos rfl, Entries.lookup_cons_self, Entries.lookup_cons_of_ne htake.ne.symm]
      simp only [map_eq_ok_iff]
      constructor
      · rintro ⟨_, ⟨x, hx, rfl⟩, h⟩
        obtain ⟨a', b', hfinal, ha', hb'⟩ := (ih hrest).mp h
        rw [hnone] at ha'
        exact ⟨a', b', hfinal, ⟨x, hx, ha'⟩, hb'⟩
      · rintro ⟨a', b', hfinal, ⟨x, hx, ha'⟩, hb'⟩
        refine ⟨_, ⟨x, hx, rfl⟩, (ih hrest).mpr ⟨a', b', hfinal, ?_, hb'⟩⟩
        rw [hnone]
        exact ha'
    by_cases hsecond : name = second
    · subst hsecond
      rw [if_neg hfirst, if_pos rfl, Entries.lookup_cons_self, Entries.lookup_cons_of_ne htake.ne]
      simp only [map_eq_ok_iff]
      constructor
      · rintro ⟨_, ⟨y, hy, rfl⟩, h⟩
        obtain ⟨a', b', hfinal, ha', hb'⟩ := (ih hrest).mp h
        rw [hnone] at hb'
        exact ⟨a', b', hfinal, ha', ⟨y, hy, hb'⟩⟩
      · rintro ⟨a', b', hfinal, ha', ⟨y, hy, hb'⟩⟩
        refine ⟨_, ⟨y, hy, rfl⟩, (ih hrest).mpr ⟨a', b', hfinal, ha', ?_⟩⟩
        rw [hnone]
        exact hb'
    · rw [if_neg hfirst, if_neg hsecond, Entries.lookup_cons_of_ne (Ne.symm hfirst),
        Entries.lookup_cons_of_ne (Ne.symm hsecond), ← ih hrest]
      simp

/-! ## Tables and lists of fields -/

namespace Value

/-- A value whose fields can be read. -/
def isRecord : Value → Bool
  | .table _ _ | .datetime | .list _ | .tables _ => true
  | _ => false

/-- The value of a field: by name in a table, by position in a list. -/
def field? (names : List Text) (name : Text) : Value → Option Value
  | .table _ entries => entries.lookup name
  | .list items => items[names.idxOf name]?
  | .tables items => items[names.idxOf name]?.map (.table .header)
  | _ => none

end Value

theorem lookup_zip {names : List Text} {name : Text} (h : name ∈ names) (items : List Value) :
    List.lookup name (names.zip items) = items[names.idxOf name]? := by
  induction names generalizing items with
  | nil => cases h
  | cons n names ih =>
    cases items with
    | nil => rfl
    | cons item items =>
      by_cases hn : name = n
      · subst hn
        rw [List.zip_cons_cons, Entries.lookup_cons_self, List.idxOf_cons, beq_self_eq_true]
        rfl
      · have hmem : name ∈ names := (List.mem_cons.mp h).resolve_left hn
        rw [List.zip_cons_cons, Entries.lookup_cons_of_ne hn, ih hmem, List.idxOf_cons,
          beq_eq_false_iff_ne.mpr (Ne.symm hn)]
        rfl

theorem recordFields_eq_ok {record : Text} {names : List Text} {value : Value} {es : Entries}
    (h : recordFields record names value = .ok es) {name : Text} (hname : name ∈ names) :
    es.lookup name = value.field? names name := by
  cases value with
  | table origin entries =>
    cases h
    rfl
  | datetime =>
    cases h
    rfl
  | list items =>
    cases h
    exact lookup_zip hname items
  | tables items =>
    cases h
    rw [lookup_zip hname, List.getElem?_map]
    rfl
  | _ => cases h

theorem exists_recordFields_iff {record : Text} {names : List Text} {value : Value} :
    (∃ es, recordFields record names value = .ok es) ↔ value.isRecord = true := by
  cases value <;> simp [recordFields, Value.isRecord, mistyped]

theorem nodup_keys_of_recordFields {record : Text} {names : List Text} (hnames : names.Nodup) {value : Value}
    (hvalue : value.IsTree) {es : Entries} (h : recordFields record names value = .ok es) : (es.map (·.1)).Nodup := by
  have hzip (items : List Value) : ((names.zip items).map (·.1)).Nodup := by
    rw [List.zip_eq_zip_take_min, List.map_fst_zip (by simp)]
    exact hnames.sublist (List.take_sublist _ _)
  cases value with
  | table origin entries =>
    cases h
    exact (Entries.isTree_table_iff.mp hvalue).keys
  | datetime =>
    cases h
    exact List.nodup_nil
  | list items =>
    cases h
    exact hzip items
  | tables items =>
    cases h
    exact hzip _
  | _ => cases h

/-- What a setting is: the given value, or the default where none is given. -/
def Has {α : Type} (value : α → Value) (default : α) (given : Option Value) (a : α) : Prop :=
  match given with
  | none => a = default
  | some v => v = value a

theorem reads_getD_iff {α : Type} {read : Value → Except Fault α} {value : α → Value}
    (hread : ∀ v a, read v = .ok a ↔ v = value a) {default a : α} {given : Option Value} :
    (∃ x, Reads read none given x ∧ x.getD default = a) ↔ Has value default given a := by
  cases given with
  | none => simp [Reads, Has, eq_comm]
  | some v =>
    simp only [Reads, Has, hread]
    constructor
    · rintro ⟨_, ⟨b, hb, rfl⟩, rfl⟩
      exact hb
    · intro h
      exact ⟨some a, ⟨a, h, rfl⟩, rfl⟩

/-- A table or a list of two fields that have defaults. -/
theorem TakesTwo.decode_eq_ok_iff {α β σ τ : Type} {mk : Option α → Option β → σ} {first second : Text}
    {readFirst : Value → Except Fault α} {readSecond : Value → Except Fault β} {take : σ → Text → Value → Except Fault σ}
    (htake : TakesTwo mk first second readFirst readSecond take) (record : Text) {value : Value} (hvalue : value.IsTree)
    {valueFirst : α → Value} (hfirst : ∀ v a, readFirst v = .ok a ↔ v = valueFirst a)
    {valueSecond : β → Value} (hsecond : ∀ v b, readSecond v = .ok b ↔ v = valueSecond b)
    {finish : σ → τ} {getFirst : τ → α} {getSecond : τ → β} {a₀ : α} {b₀ : β}
    (hfinish : ∀ a b s, finish (mk a b) = s ↔ a.getD a₀ = getFirst s ∧ b.getD b₀ = getSecond s) {s : τ} :
    (do
      let es ← recordFields record [first, second] value
      let draft ← decodeFields take (mk none none) es
      return finish draft) = Except.ok s ↔
      value.isRecord = true ∧ Has valueFirst a₀ (value.field? [first, second] first) (getFirst s) ∧
        Has valueSecond b₀ (value.field? [first, second] second) (getSecond s) := by
  have hnames : [first, second].Nodup := by simp [htake.ne]
  have hdraft {es : Entries} (hes : recordFields record [first, second] value = .ok es) (draft : σ) :
      decodeFields take (mk none none) es = .ok draft ↔ ∃ a b, mk a b = draft ∧
        Reads readFirst none (value.field? [first, second] first) a ∧
        Reads readSecond none (value.field? [first, second] second) b := by
    rw [htake.decodeFields_eq_ok_iff (nodup_keys_of_recordFields hnames hvalue hes),
      recordFields_eq_ok hes List.mem_cons_self,
      recordFields_eq_ok hes (List.mem_cons_of_mem _ List.mem_cons_self)]
  simp only [bind_eq_ok_iff]
  constructor
  · rintro ⟨es, hes, draft, h, hs⟩
    obtain ⟨a, b, rfl, ha, hb⟩ := (hdraft hes draft).mp h
    obtain ⟨hgetFirst, hgetSecond⟩ := (hfinish a b s).mp (Except.ok.inj hs)
    exact ⟨exists_recordFields_iff.mp ⟨es, hes⟩, (reads_getD_iff hfirst).mp ⟨a, ha, hgetFirst⟩,
      (reads_getD_iff hsecond).mp ⟨b, hb, hgetSecond⟩⟩
  · rintro ⟨hrecord, hhasFirst, hhasSecond⟩
    obtain ⟨a, ha, hgetFirst⟩ := (reads_getD_iff hfirst).mpr hhasFirst
    obtain ⟨b, hb, hgetSecond⟩ := (reads_getD_iff hsecond).mpr hhasSecond
    obtain ⟨es, hes⟩ := (@exists_recordFields_iff record [first, second] value).mpr hrecord
    exact ⟨es, hes, mk a b, (hdraft hes _).mpr ⟨a, b, rfl, ha, hb⟩,
      congrArg Except.ok ((hfinish a b s).mpr ⟨hgetFirst, hgetSecond⟩)⟩

end BlockHarness.Toml

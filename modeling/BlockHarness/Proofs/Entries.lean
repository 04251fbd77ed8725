import BlockHarness.Proofs.Extraction
import BlockHarness.Scenario.Decode

/-! Records read from entries in one pass. Every field is read from the values of its own name and at most once, so
what comes out is settled field by field: the order of the entries plays no part, nor do entries that mean nothing. -/
namespace BlockHarness.Yaml
set_option autoImplicit false
open Data

/-! ## Values -/

namespace Document
variable (d : Document)

/-- What aliases stand for has been read to its end, and is not an alias again. -/
def Settled : Prop := ∀ target ∈ d.targets, target.2.isWhole = true ∧ ∀ n, target.2 ≠ .«alias» n

def text? (node : Node) : Option Text :=
  match d.resolve node with
  | .scalar _ _ t => some t
  | _ => none

/-- Whether a scalar stands for nothing: plain text that is empty or spelt as a null without a tag, or spelt as one
with the tag of nulls. -/
def isNull (tag : Option Text) (isPlain : Bool) (t : Text) : Bool :=
  isPlain && (tag == none && (t.isEmpty || isNullWord t) || tag == some (standardTag "null") && isNullWord t)

/-- Whether a scalar has the tag of nulls, but is not spelt as one. -/
def isMisspelt (tag : Option Text) (isPlain : Bool) (t : Text) : Bool :=
  isPlain && tag == some (standardTag "null") && !isNullWord t

/-- The text of a scalar, or that there is none. -/
def optional? (node : Node) : Option (Option Text) :=
  match d.resolve node with
  | .scalar tag isPlain t =>
    if isMisspelt tag isPlain t then none else some (if isNull tag isPlain t then none else some t)
  | _ => none

/-- The texts of the scalars in a sequence. -/
def texts? (node : Node) : Option (List Text) :=
  match d.resolve node with
  | .sequence items => items.mapM d.text?
  | .scalar _ true [] => some []
  | _ => none

variable {d}

theorem Settled.resolve_ne_alias (hd : d.Settled) (node : Node) (n : Nat) : d.resolve node ≠ .«alias» n := by
  cases node with
  | «alias» m =>
    rw [resolve]
    cases hlookup : d.targets.lookup m with
    | none => exact nofun
    | some target => exact (hd _ (mem_of_lookup_eq_some hlookup)).2 n
  | _ => exact nofun

theorem Settled.isWhole_resolve (hd : d.Settled) {node : Node} (hnode : node.isWhole = true) {entries : List (Node × Node)}
    (h : d.resolve node = .mapping entries) : areWholeEntries entries = true := by
  cases node with
  | «alias» m =>
    rw [resolve] at h
    cases hlookup : d.targets.lookup m with
    | none => simp [hlookup] at h
    | some target =>
      have hwhole := (hd _ (mem_of_lookup_eq_some hlookup)).1
      rw [hlookup, Option.getD_some] at h
      rwa [h] at hwhole
  | mapping entries' =>
    cases h
    exact hnode
  | _ => cases h

theorem decodeText_eq_ok_iff {place : Place} {due : Data.Due} {node : Node} {t : Text} :
    decodeText d place due node = .ok t ↔ d.text? node = some t := by
  rw [decodeText, text?]
  cases d.resolve node <;> simp

theorem decodeOptional_eq_ok_iff (hd : d.Settled) {outer place : Place} {node : Node} {x : Option Text} :
    decodeOptional d outer place node = .ok x ↔ d.optional? node = some x := by
  rw [decodeOptional, optional?]
  cases hnode : d.resolve node with
  | scalar tag isPlain t =>
    cases isPlain with
    | false =>
      have htext : decodeText d place .text (.scalar tag false t) = .ok t := rfl
      cases tag <;> simp [htext, isNull, isMisspelt, Except.map]
    | true =>
      cases tag with
      | none => by_cases h : t = [] ∨ isNullWord t = true <;> simp_all [isNull, isMisspelt]
      | some tag =>
        by_cases htag : tag = standardTag "null"
        · by_cases h : isNullWord t = true <;> simp [isNull, isMisspelt, htag, h]
        · simp [isNull, isMisspelt, htag, -String.reduceToList]
  | «alias» n => exact absurd hnode (hd.resolve_ne_alias node n)
  | _ => simp [decodeText, resolve, Except.map]

theorem decodeItems_eq_ok_iff {place : Place} {index : Nat} {items : List Node} {ts : List Text} :
    decodeItems d place index items = .ok ts ↔ items.mapM d.text? = some ts := by
  induction items generalizing index ts with
  | nil => simp [decodeItems]
  | cons node rest ih =>
    simp only [decodeItems, bind_eq_ok_iff, decodeText_eq_ok_iff, ih, List.mapM_cons, Option.bind_eq_bind,
      Option.bind_eq_some_iff]
    simp [pure, Except.pure]

theorem decodeTexts_eq_ok_iff {place : Place} {node : Node} {ts : List Text} :
    decodeTexts d place node = .ok ts ↔ d.texts? node = some ts := by
  rw [decodeTexts, texts?]
  cases d.resolve node with
  | sequence items => exact decodeItems_eq_ok_iff
  | scalar tag isPlain t => cases isPlain <;> cases t <;> simp
  | _ => simp

theorem decodeKey_eq_ok_iff {place : Place} {key : Node} {name : Text} :
    (∃ step, decodeKey d place key = .ok (name, step)) ↔ d.text? key = some name := by
  have hmap (f : Text → Step) :
      (∃ step, ((decodeText d place .fieldName key).map fun t => (t, f t)) = .ok (name, step)) ↔
        d.text? key = some name := by
    rw [← @decodeText_eq_ok_iff d place .fieldName key name]
    cases decodeText d place .fieldName key <;> simp [Except.map]
  cases key with
  | «alias» n => exact hmap fun _ => .namelessKey
  | _ => exact hmap .key

/-! ## Records -/

/-- The values that entries give to a name. -/
def valuesOf (d : Document) (name : Text) (entries : List (Node × Node)) : List Node :=
  (entries.filter fun entry => d.text? entry.1 = some name).map (·.2)

/-- Every key is a text, and where it is none of the given names its value comes to an end. -/
def Passable (d : Document) (names : List Text) (entries : List (Node × Node)) : Prop :=
  ∀ entry ∈ entries, ∃ name, d.text? entry.1 = some name ∧ (name ∉ names → entry.2.isWhole = true)

theorem valuesOf_cons_self {name : Text} {key value : Node} (h : d.text? key = some name)
    (entries : List (Node × Node)) : d.valuesOf name ((key, value) :: entries) = value :: d.valuesOf name entries := by
  simp [valuesOf, h]

theorem valuesOf_cons_of_ne {name : Text} {key value : Node} (h : d.text? key ≠ some name)
    (entries : List (Node × Node)) : d.valuesOf name ((key, value) :: entries) = d.valuesOf name entries := by
  simp [valuesOf, h]

theorem passable_cons_iff {names : List Text} {key value : Node} {entries : List (Node × Node)} :
    d.Passable names ((key, value) :: entries) ↔
      (∃ name, d.text? key = some name ∧ (name ∉ names → value.isWhole = true)) ∧ d.Passable names entries :=
  List.forall_mem_cons

end Document

/-- What a field holds before and after the values of its name have been read: each value is read into an empty
field. -/
inductive Gives {α : Type} (read : Node → Option α) : Option α → List Node → Option α → Prop where
  | kept (held : Option α) : Gives read held [] held
  | filled {value : Node} {a : α} (h : read value = some a) : Gives read none [value] (some a)

section
variable {α : Type} {read : Node → Option α} {held after : Option α}

theorem gives_nil_iff : Gives read held [] after ↔ held = after := by
  constructor
  · rintro ⟨⟩
    rfl
  · rintro rfl
    exact .kept held

theorem gives_cons_iff {value : Node} {values : List Node} :
    Gives read held (value :: values) after ↔ held = none ∧ ∃ a, read value = some a ∧ Gives read (some a) values after := by
  constructor
  · intro h
    cases h with
    | filled h => exact ⟨rfl, _, h, .kept _⟩
  · rintro ⟨rfl, a, ha, hrest⟩
    cases hrest
    exact .filled ha

/-- The order of values does not matter, nor does anything but what is read of each. -/
theorem Gives.of_perm {values values' : List Node} (hperm : (values.map read).Perm (values'.map read))
    (h : Gives read held values after) : Gives read held values' after := by
  cases h with
  | kept =>
    have hnil : values' = [] := List.map_eq_nil_iff.mp (List.nil_perm.mp hperm)
    exact hnil ▸ .kept _
  | filled ha =>
    rw [List.map_singleton, ha, List.singleton_perm, eq_comm, List.map_eq_singleton_iff] at hperm
    obtain ⟨value', rfl, hread⟩ := hperm
    exact .filled hread

theorem Gives.read_eq {values : List Node} (h : Gives read none values after) : ∀ value ∈ values, read value = after := by
  cases h with
  | kept => exact List.forall_mem_nil _
  | filled ha => exact List.forall_mem_singleton.mpr ha

theorem Gives.read_eq_getD {β : Type} {read : Node → Option (List β)} {values : List Node} {x : Option (List β)}
    (h : Gives read none values x) :
    (∀ value ∈ values, read value = some (x.getD [])) ∧ (values = [] → x.getD [] = []) := by
  cases h with
  | kept => exact ⟨List.forall_mem_nil _, fun _ => rfl⟩
  | filled ha => exact ⟨List.forall_mem_singleton.mpr ha, nofun⟩

/-- An empty field can be read from values if there is at most one, and it is readable. -/
theorem exists_gives_iff {values : List Node} :
    (∃ x, Gives read none values x) ↔ values.length ≤ 1 ∧ ∀ value ∈ values, ∃ a, read value = some a := by
  constructor
  · rintro ⟨x, hkept | ha⟩
    · exact ⟨Nat.zero_le 1, List.forall_mem_nil _⟩
    · exact ⟨Nat.le_refl 1, List.forall_mem_singleton.mpr ⟨_, ha⟩⟩
  · rintro ⟨hlength, hread⟩
    match values with
    | [] => exact ⟨none, .kept none⟩
    | [value] =>
      obtain ⟨a, ha⟩ := hread value List.mem_cons_self
      exact ⟨some a, .filled ha⟩
    | _ :: _ :: _ => exact absurd hlength (by simp)

theorem exists_gives_some_iff {values : List Node} :
    (∃ a, Gives read none values (some a)) ↔
      values.length ≤ 1 ∧ values ≠ [] ∧ ∀ value ∈ values, ∃ a, read value = some a := by
  constructor
  · rintro ⟨a, h⟩
    obtain ⟨hlength, hread⟩ := exists_gives_iff.mp ⟨_, h⟩
    refine ⟨hlength, ?_, hread⟩
    rintro rfl
    cases h
  · rintro ⟨hlength, hne, hread⟩
    obtain ⟨x, hx⟩ := exists_gives_iff.mpr ⟨hlength, hread⟩
    cases hx with
    | kept => exact absurd rfl hne
    | filled ha => exact ⟨_, .filled ha⟩

end

/-- How a record in the making takes its fields: each by its name, once, and without a change to the other ones. What
has another name is passed over. -/
structure Fields (d : Document) {σ : Type} (outer : Place) (take : σ → Text → Place → Node → Except Fault σ) where
  Field : Type
  Value : Field → Type
  name : Field → Text
  held : σ → (f : Field) → Option (Value f)
  put : σ → (f : Field) → Value f → σ
  read : (f : Field) → Node → Option (Value f)
  all : List Field
  mem_all : ∀ f, f ∈ all
  name_injective : ∀ f g, name f = name g → f = g
  held_injective : ∀ draft draft', (∀ f, held draft f = held draft' f) → draft = draft'
  held_put : ∀ draft f a, held (put draft f a) f = some a
  held_put_of_ne : ∀ draft f a g, g ≠ f → held (put draft f a) g = held draft g
  take_eq_ok_iff : ∀ draft f place value draft', take draft (name f) place value = .ok draft' ↔
    held draft f = none ∧ ∃ a, read f value = some a ∧ put draft f a = draft'
  take_foreign : ∀ draft n place value, (∀ f, n ≠ name f) → take draft n place value = skipValue draft value

theorem decodeEntries_cons {d : Document} {σ : Type} (outer : Place) (take : σ → Text → Place → Node → Except Fault σ)
    {key : Node} {n : Text} (hkey : d.text? key = some n) (value : Node) (entries : List (Node × Node)) :
    ∃ place, ∀ draft, decodeEntries d outer take draft ((key, value) :: entries) =
      (take draft n place value).bind fun draft => decodeEntries d outer take draft entries := by
  obtain ⟨step, hstep⟩ := (@Document.decodeKey_eq_ok_iff d outer key n).mpr hkey
  refine ⟨outer ++ [step], fun draft => ?_⟩
  rw [decodeEntries, hstep]
  rfl

theorem text?_of_decodeEntries {d : Document} {σ : Type} {outer : Place} {take : σ → Text → Place → Node → Except Fault σ}
    {key value : Node} {entries : List (Node × Node)} {draft final : σ}
    (h : decodeEntries d outer take draft ((key, value) :: entries) = .ok final) : ∃ n, d.text? key = some n := by
  obtain ⟨⟨n, step⟩, hkey, -⟩ := (bind_eq_ok_iff _ _ _).mp h
  exact ⟨n, Document.decodeKey_eq_ok_iff.mp ⟨step, hkey⟩⟩

namespace Fields
variable {d : Document} {σ : Type} {outer : Place} {take : σ → Text → Place → Node → Except Fault σ}
variable (fields : Fields d outer take)

def names : List Text := fields.all.map fields.name

theorem mem_names_iff (n : Text) : n ∈ fields.names ↔ ∃ f, fields.name f = n := by
  rw [names, List.mem_map]
  exact ⟨fun ⟨f, _, hf⟩ => ⟨f, hf⟩, fun ⟨f, hf⟩ => ⟨f, fields.mem_all f, hf⟩⟩

/-- What a field holds, read from the values of its name. -/
def Reads (draft : σ) (entries : List (Node × Node)) (final : σ) (f : fields.Field) : Prop :=
  Gives (fields.read f) (fields.held draft f) (d.valuesOf (fields.name f) entries) (fields.held final f)

theorem reads_nil_iff {draft final : σ} : (∀ f, fields.Reads draft [] final f) ↔ draft = final := by
  constructor
  · intro h
    exact fields.held_injective _ _ fun f => gives_nil_iff.mp (h f)
  · rintro rfl f
    exact .kept _

/-- An entry of a field is read into that field, and the rest goes on from there. -/
theorem reads_cons_iff {f : fields.Field} {key : Node} (hkey : d.text? key = some (fields.name f)) {value : Node}
    {entries : List (Node × Node)} {draft final : σ} :
    (∀ g, fields.Reads draft ((key, value) :: entries) final g) ↔
      fields.held draft f = none ∧
        ∃ a, fields.read f value = some a ∧ ∀ g, fields.Reads (fields.put draft f a) entries final g := by
  have hother {g : fields.Field} (hg : g ≠ f) (a : fields.Value f) :
      fields.Reads draft ((key, value) :: entries) final g ↔ fields.Reads (fields.put draft f a) entries final g := by
    have hne : d.text? key ≠ some (fields.name g) := by
      rw [hkey]
      exact fun e => hg (fields.name_injective _ _ (Option.some.inj e).symm)
    rw [Reads, Reads, Document.valuesOf_cons_of_ne hne, fields.held_put_of_ne draft f a g hg]
  have hself (a : fields.Value f) : fields.Reads (fields.put draft f a) entries final f ↔
      Gives (fields.read f) (some a) (d.valuesOf (fields.name f) entries) (fields.held final f) := by
    rw [Reads, fields.held_put]
  have hfirst : fields.Reads draft ((key, value) :: entries) final f ↔ fields.held draft f = none ∧
      ∃ a, fields.read f value = some a ∧ fields.Reads (fields.put draft f a) entries final f := by
    rw [Reads, Document.valuesOf_cons_self hkey, gives_cons_iff]
    simp only [hself]
  constructor
  · intro h
    obtain ⟨hnone, a, ha, hf⟩ := hfirst.mp (h f)
    refine ⟨hnone, a, ha, fun g => ?_⟩
    by_cases hg : g = f
    · exact hg ▸ hf
    · exact (hother hg a).mp (h g)
  · rintro ⟨hnone, a, ha, h⟩ g
    by_cases hg : g = f
    · exact hg ▸ hfirst.mpr ⟨hnone, a, ha, h f⟩
    · exact (hother hg a).mpr (h g)

/-- An entry that means nothing is not read at all. -/
theorem reads_cons_foreign_iff {key : Node} {n : Text} (hkey : d.text? key = some n) (hn : n ∉ fields.names) {value : Node}
    {entries : List (Node × Node)} {draft final : σ} :
    (∀ g, fields.Reads draft ((key, value) :: entries) final g) ↔ ∀ g, fields.Reads draft entries final g := by
  refine forall_congr' fun g => ?_
  have hne : d.text? key ≠ some (fields.name g) := by
    rw [hkey]
    exact fun e => hn (Option.some.inj e ▸ (fields.mem_names_iff _).mpr ⟨g, rfl⟩)
  rw [Reads, Reads, Document.valuesOf_cons_of_ne hne]

/-- **Entries in one pass.** A record is read from entries if and only if each of its fields is, from the values of
its name, and nothing breaks off in an entry that means nothing. -/
theorem decodeEntries_eq_ok_iff (entries : List (Node × Node)) (draft final : σ) :
    decodeEntries d outer take draft entries = .ok final ↔
      d.Passable fields.names entries ∧ ∀ f, fields.Reads draft entries final f := by
  induction entries generalizing draft with
  | nil =>
    have hpassable : d.Passable fields.names [] := List.forall_mem_nil _
    rw [decodeEntries, Except.ok.injEq, reads_nil_iff]
    exact ⟨fun h => ⟨hpassable, h⟩, fun h => h.2⟩
  | cons entry entries ih =>
    obtain ⟨key, value⟩ := entry
    rw [Document.passable_cons_iff]
    cases hkey : d.text? key with
    | none =>
      constructor
      · intro h
        obtain ⟨n, hn⟩ := text?_of_decodeEntries h
        rw [hn] at hkey
        cases hkey
      · rintro ⟨⟨⟨n, hn, -⟩, -⟩, -⟩
        cases hn
    | some n =>
      obtain ⟨place, hcons⟩ := decodeEntries_cons outer take hkey value entries
      have hfirst : (∃ name, some n = some name ∧ (name ∉ fields.names → value.isWhole = true)) ↔
          (n ∉ fields.names → value.isWhole = true) := by simp
      rw [hcons, hfirst]
      have hbind : ((take draft n place value).bind fun draft => decodeEntries d outer take draft entries) = .ok final ↔
          ∃ draft', take draft n place value = .ok draft' ∧ decodeEntries d outer take draft' entries = .ok final :=
        bind_eq_ok_iff _ _ _
      rw [hbind]
      simp only [ih]
      by_cases hn : n ∈ fields.names
      · obtain ⟨f, rfl⟩ := (fields.mem_names_iff n).mp hn
        rw [fields.reads_cons_iff hkey]
        simp only [fields.take_eq_ok_iff]
        constructor
        · rintro ⟨draft', ⟨hnone, a, ha, rfl⟩, hpassable, hreads⟩
          exact ⟨⟨fun h => absurd hn h, hpassable⟩, hnone, a, ha, hreads⟩
        · rintro ⟨⟨-, hpassable⟩, hnone, a, ha, hreads⟩
          exact ⟨_, ⟨hnone, a, ha, rfl⟩, hpassable, hreads⟩
      · have hforeign : ∀ f, n ≠ fields.name f := fun f e => hn ((fields.mem_names_iff n).mpr ⟨f, e.symm⟩)
        rw [fields.reads_cons_foreign_iff hkey hn, fields.take_foreign draft n place value hforeign, skipValue]
        by_cases hwhole : value.isWhole = true <;> simp [hwhole, hn]

end Fields

theorem once_map_eq_ok_iff {α σ : Type} {place : Place} {name : Text} {held : Option α} {value : Except Fault α}
    {put : Option α → σ} {final : σ} :
    (once place name held value).map put = .ok final ↔ held = none ∧ ∃ a, value = .ok a ∧ put (some a) = final := by
  cases held <;> cases value <;> simp [once, Except.map]

/-! ## Expectations -/

inductive ExpectationsField where
  | programOutput
  | readBuffer
  deriving DecidableEq

namespace ExpectationsField

def all : List ExpectationsField := [programOutput, readBuffer]

def name : ExpectationsField → Text
  | programOutput => "program_output"
  | readBuffer => "read_buffer"

def names : List Text := all.map name

def Value : ExpectationsField → Type
  | programOutput => Text
  | readBuffer => Option Text

def held (draft : ExpectationsDraft) : (f : ExpectationsField) → Option f.Value
  | programOutput => draft.programOutput
  | readBuffer => draft.readBuffer

def put (draft : ExpectationsDraft) : (f : ExpectationsField) → f.Value → ExpectationsDraft
  | programOutput, t => { draft with programOutput := some t }
  | readBuffer, x => { draft with readBuffer := some x }

def read (d : Document) : (f : ExpectationsField) → Node → Option f.Value
  | programOutput => d.text?
  | readBuffer => d.optional?

theorem mem_all (f : ExpectationsField) : f ∈ all := by cases f <;> decide

theorem name_mem_names (f : ExpectationsField) : f.name ∈ names := List.mem_map_of_mem (mem_all f)

theorem name_injective (f g : ExpectationsField) : f.name = g.name → f = g := by cases f <;> cases g <;> decide

theorem held_injective (draft draft' : ExpectationsDraft) (h : ∀ f, held draft f = held draft' f) : draft = draft' := by
  have houtput : draft.programOutput = draft'.programOutput := h programOutput
  have hbuffer : draft.readBuffer = draft'.readBuffer := h readBuffer
  cases draft
  cases draft'
  simp_all

theorem held_put (draft : ExpectationsDraft) (f : ExpectationsField) (a : f.Value) : held (put draft f a) f = some a := by
  cases f <;> rfl

theorem held_put_of_ne (draft : ExpectationsDraft) (f : ExpectationsField) (a : f.Value) (g : ExpectationsField)
    (h : g ≠ f) : held (put draft f a) g = held draft g := by
  cases f <;> cases g <;> first | rfl | exact absurd rfl h

theorem take_eq_ok_iff {d : Document} (hd : d.Settled) {outer : Place} (draft : ExpectationsDraft) (f : ExpectationsField)
    (place : Place) (value : Node) (draft' : ExpectationsDraft) :
    draft.take d outer f.name place value = .ok draft' ↔
      held draft f = none ∧ ∃ a, read d f value = some a ∧ put draft f a = draft' := by
  cases f with
  | programOutput =>
    rw [ExpectationsDraft.take, if_pos (by decide), once_map_eq_ok_iff]
    simp only [Document.decodeText_eq_ok_iff]
    rfl
  | readBuffer =>
    rw [ExpectationsDraft.take, if_neg (by decide), if_pos (by decide), once_map_eq_ok_iff]
    simp only [Document.decodeOptional_eq_ok_iff hd]
    rfl

theorem take_foreign {d : Document} {outer : Place} (draft : ExpectationsDraft) (n : Text) (place : Place) (value : Node)
    (h : ∀ f : ExpectationsField, n ≠ f.name) : draft.take d outer n place value = skipValue draft value := by
  have houtput : n ≠ "program_output" := h programOutput
  have hbuffer : n ≠ "read_buffer" := h readBuffer
  rw [ExpectationsDraft.take, if_neg houtput, if_neg hbuffer]

def fields {d : Document} (hd : d.Settled) (outer : Place) : Fields d outer (ExpectationsDraft.take d outer) where
  Field := ExpectationsField
  Value := Value
  name := name
  held := held
  put := put
  read := read d
  all := all
  mem_all := mem_all
  name_injective := name_injective
  held_injective := held_injective
  held_put := held_put
  held_put_of_ne := held_put_of_ne
  take_eq_ok_iff := take_eq_ok_iff hd
  take_foreign := take_foreign

end ExpectationsField

theorem needed_eq_ok_iff {α : Type} {place : Place} {name : Text} {x : Option α} {a : α} :
    needed place name x = .ok a ↔ x = some a := by
  cases x <;> simp [needed]

/-- Entries are those of a mapping, or there are none. -/
theorem recordEntries_eq_ok {d : Document} {place : Place} {name : Text} {node : Node} {entries : List (Node × Node)}
    (h : recordEntries d place name node = .ok entries) : d.resolve node = .mapping entries ∨ entries = [] := by
  rw [recordEntries] at h
  split at h
  next es hnode => exact .inl (Except.ok.inj h ▸ hnode)
  next => exact .inr (Except.ok.inj h).symm
  next =>
    split at h
    · exact .inr (Except.ok.inj h).symm
    · cases h
  next => cases h
  next => cases h

theorem recordEntries_of_mapping {d : Document} {node : Node} {entries : List (Node × Node)}
    (h : d.resolve node = .mapping entries) (place : Place) (name : Text) :
    recordEntries d place name node = .ok entries := by
  rw [recordEntries, h]

namespace Document
variable {d : Document}

/-- What expectations are read from entries. -/
structure ReadsExpectations (d : Document) (entries : List (Node × Node)) (e : Expectations) : Prop where
  passable : d.Passable ExpectationsField.names entries
  programOutput : Gives d.text? none (d.valuesOf "program_output" entries) (some e.programOutput)
  readBuffer : ∃ x, Gives d.optional? none (d.valuesOf "read_buffer" entries) x ∧ x.join = e.readBuffer

theorem decodeExpectations_eq_ok_iff (hd : d.Settled) {place : Place} {node : Node} {e : Expectations} :
    decodeExpectations d place node = .ok e ↔
      ∃ entries, d.resolve node = .mapping entries ∧ d.ReadsExpectations entries e := by
  have hfields := (ExpectationsField.fields hd place).decodeEntries_eq_ok_iff
  simp only [decodeExpectations, bind_eq_ok_iff, needed_eq_ok_iff, hfields]
  constructor
  · rintro ⟨entries, hentries, draft, ⟨hpassable, hreads⟩, t, ht, he⟩
    have houtput : Gives d.text? none (d.valuesOf "program_output" entries) draft.programOutput := hreads .programOutput
    have hbuffer : Gives d.optional? none (d.valuesOf "read_buffer" entries) draft.readBuffer := hreads .readBuffer
    rw [ht] at houtput
    obtain rfl : (⟨t, draft.readBuffer.join⟩ : Expectations) = e := Except.ok.inj he
    refine ⟨entries, ?_, hpassable, houtput, _, hbuffer, rfl⟩
    rcases recordEntries_eq_ok hentries with hnode | rfl
    · exact hnode
    · cases houtput
  · rintro ⟨entries, hnode, hpassable, houtput, x, hbuffer, hx⟩
    refine ⟨entries, recordEntries_of_mapping hnode _ _, ⟨some e.programOutput, x⟩, ⟨hpassable, ?_⟩, _, rfl, ?_⟩
    · rintro ⟨⟩
      · exact houtput
      · exact hbuffer
    · rw [hx]
      rfl

/-- Expectations, if a node holds them. -/
def expectations? (d : Document) (node : Node) : Option Expectations := (decodeExpectations d [] node).toOption

theorem expectations?_eq_some_iff (hd : d.Settled) {node : Node} {e : Expectations} :
    d.expectations? node = some e ↔ ∃ entries, d.resolve node = .mapping entries ∧ d.ReadsExpectations entries e := by
  rw [← @decodeExpectations_eq_ok_iff d hd [], expectations?, toOption_eq_some_iff]

end Document

/-! ## Scenarios -/

inductive ScenarioField where
  | name
  | description
  | executable
  | args
  | input
  | expect
  deriving DecidableEq

namespace ScenarioField

def all : List ScenarioField := [name, description, executable, args, input, expect]

def literal : ScenarioField → Text
  | name => "name"
  | description => "description"
  | executable => "executable"
  | args => "args"
  | input => "input"
  | expect => "expect"

def names : List Text := all.map literal

def Value : ScenarioField → Type
  | name | executable | input => Text
  | description => Option Text
  | args => List Text
  | expect => Expectations

def held (draft : ScenarioDraft) : (f : ScenarioField) → Option f.Value
  | name => draft.name
  | description => draft.description
  | executable => draft.executable
  | args => draft.args
  | input => draft.input
  | expect => draft.expect

def put (draft : ScenarioDraft) : (f : ScenarioField) → f.Value → ScenarioDraft
  | name, t => { draft with name := some t }
  | description, x => { draft with description := some x }
  | executable, t => { draft with executable := some t }
  | args, ts => { draft with args := some ts }
  | input, t => { draft with input := some t }
  | expect, e => { draft with expect := some e }

def read (d : Document) : (f : ScenarioField) → Node → Option f.Value
  | name | executable | input => d.text?
  | description => d.optional?
  | args => d.texts?
  | expect => d.expectations?

theorem mem_all (f : ScenarioField) : f ∈ all := by cases f <;> decide

theorem literal_mem_names (f : ScenarioField) : f.literal ∈ names := List.mem_map_of_mem (mem_all f)

theorem literal_injective (f g : ScenarioField) : f.literal = g.literal → f = g := by cases f <;> cases g <;> decide

theorem held_injective (draft draft' : ScenarioDraft) (h : ∀ f, held draft f = held draft' f) : draft = draft' := by
  have hname : draft.name = draft'.name := h name
  have hdescription : draft.description = draft'.description := h description
  have hexecutable : draft.executable = draft'.executable := h executable
  have hargs : draft.args = draft'.args := h args
  have hinput : draft.input = draft'.input := h input
  have hexpect : draft.expect = draft'.expect := h expect
  cases draft
  cases draft'
  simp_all

theorem held_put (draft : ScenarioDraft) (f : ScenarioField) (a : f.Value) : held (put draft f a) f = some a := by
  cases f <;> rfl

theorem held_put_of_ne (draft : ScenarioDraft) (f : ScenarioField) (a : f.Value) (g : ScenarioField) (h : g ≠ f) :
    held (put draft f a) g = held draft g := by
  cases f <;> cases g <;> first | rfl | exact absurd rfl h

variable {d : Document}

theorem take_eq_ok_iff (hd : d.Settled) {outer : Place} (draft : ScenarioDraft) (f : ScenarioField) (place : Place)
    (value : Node) (draft' : ScenarioDraft) :
    draft.take d outer f.literal place value = .ok draft' ↔
      held draft f = none ∧ ∃ a, read d f value = some a ∧ put draft f a = draft' := by
  cases f with
  | name =>
    rw [ScenarioDraft.take, if_pos (by decide), once_map_eq_ok_iff]
    simp only [Document.decodeText_eq_ok_iff]
    rfl
  | description =>
    rw [ScenarioDraft.take, if_neg (by decide), if_pos (by decide), once_map_eq_ok_iff]
    simp only [Document.decodeOptional_eq_ok_iff hd]
    rfl
  | executable =>
    rw [ScenarioDraft.take, if_neg (by decide), if_neg (by decide), if_pos (by decide), once_map_eq_ok_iff]
    simp only [Document.decodeText_eq_ok_iff]
    rfl
  | args =>
    rw [ScenarioDraft.take, if_neg (by decide), if_neg (by decide), if_neg (by decide), if_pos (by decide),
      once_map_eq_ok_iff]
    simp only [Document.decodeTexts_eq_ok_iff]
    rfl
  | input =>
    rw [ScenarioDraft.take, if_neg (by decide), if_neg (by decide), if_neg (by decide), if_neg (by decide),
      if_pos (by decide), once_map_eq_ok_iff]
    simp only [Document.decodeText_eq_ok_iff]
    rfl
  | expect =>
    rw [ScenarioDraft.take, if_neg (by decide), if_neg (by decide), if_neg (by decide), if_neg (by decide),
      if_neg (by decide), if_pos (by decide), once_map_eq_ok_iff]
    simp only [Document.decodeExpectations_eq_ok_iff hd, ← Document.expectations?_eq_some_iff hd]
    rfl

theorem take_foreign {outer : Place} (draft : ScenarioDraft) (n : Text) (place : Place) (value : Node)
    (h : ∀ f : ScenarioField, n ≠ f.literal) : draft.take d outer n place value = skipValue draft value := by
  have hname : n ≠ "name" := h name
  have hdescription : n ≠ "description" := h description
  have hexecutable : n ≠ "executable" := h executable
  have hargs : n ≠ "args" := h args
  have hinput : n ≠ "input" := h input
  have hexpect : n ≠ "expect" := h expect
  rw [ScenarioDraft.take, if_neg hname, if_neg hdescription, if_neg hexecutable, if_neg hargs, if_neg hinput,
    if_neg hexpect]

def fields (hd : d.Settled) (outer : Place) : Fields d outer (ScenarioDraft.take d outer) where
  Field := ScenarioField
  Value := Value
  name := literal
  held := held
  put := put
  read := read d
  all := all
  mem_all := mem_all
  name_injective := literal_injective
  held_injective := held_injective
  held_put := held_put
  held_put_of_ne := held_put_of_ne
  take_eq_ok_iff := take_eq_ok_iff hd
  take_foreign := take_foreign

end ScenarioField

namespace Document
variable {d : Document}

/-- What scenario is read from entries. -/
structure ReadsScenario (d : Document) (entries : List (Node × Node)) (s : Scenario) : Prop where
  passable : d.Passable ScenarioField.names entries
  name : Gives d.text? none (d.valuesOf "name" entries) (some s.name)
  description : ∃ x, Gives d.optional? none (d.valuesOf "description" entries) x ∧ x.join = s.description
  executable : Gives d.text? none (d.valuesOf "executable" entries) (some s.executable)
  args : ∃ x, Gives d.texts? none (d.valuesOf "args" entries) x ∧ x.getD [] = s.args
  input : ∃ x, Gives d.text? none (d.valuesOf "input" entries) x ∧ x.getD [] = s.input
  expect : Gives d.expectations? none (d.valuesOf "expect" entries) (some s.expect)
  baseDir : s.baseDir = none

theorem decodeScenario_eq_ok_iff (hd : d.Settled) {entries : List (Node × Node)} {s : Scenario} :
    decodeScenario d (.mapping entries) = .ok s ↔ d.ReadsScenario entries s := by
  have hentries : recordEntries d [] "Scenario" (.mapping entries) = .ok entries :=
    recordEntries_of_mapping rfl [] "Scenario"
  have hfields := (ScenarioField.fields hd []).decodeEntries_eq_ok_iff entries
  simp only [decodeScenario, bind_eq_ok_iff, needed_eq_ok_iff, hentries, Except.ok.injEq, exists_eq_left', hfields]
  constructor
  · rintro ⟨draft, ⟨hpassable, hreads⟩, t, ht, p, hp, e, he, hs⟩
    have hname : Gives d.text? none (d.valuesOf "name" entries) draft.name := hreads .name
    have hexecutable : Gives d.text? none (d.valuesOf "executable" entries) draft.executable := hreads .executable
    have hexpect : Gives d.expectations? none (d.valuesOf "expect" entries) draft.expect := hreads .expect
    rw [ht] at hname
    rw [hp] at hexecutable
    rw [he] at hexpect
    obtain rfl := Except.ok.inj hs
    exact ⟨hpassable, hname, ⟨_, hreads .description, rfl⟩, hexecutable, ⟨_, hreads .args, rfl⟩,
      ⟨_, hreads .input, rfl⟩, hexpect, rfl⟩
  · intro h
    obtain ⟨description, hdescription, hd'⟩ := h.description
    obtain ⟨args, hargs, ha'⟩ := h.args
    obtain ⟨input, hinput, hi'⟩ := h.input
    refine ⟨⟨some s.name, description, some s.executable, args, input, some s.expect⟩, ⟨h.passable, ?_⟩, _, rfl, _, rfl, _,
      rfl, ?_⟩
    · rintro ⟨⟩
      · exact h.name
      · exact hdescription
      · exact h.executable
      · exact hargs
      · exact hinput
      · exact h.expect
    · rw [hd', ha', hi', ← h.baseDir]
      rfl

end Document
end BlockHarness.Yaml

import BlockHarness.Proofs.Extraction
import BlockHarness.Settings

/-! Tables with each key once. Whatever adds to a table looks first whether the key is there, so no table of a TOML
document has a key twice, at any depth. -/
namespace BlockHarness.Toml
set_option autoImplicit false

/-! ## Trees -/

/-- A value in which no table has a key twice. -/
inductive Value.IsTree : Value → Prop where
  | text (t : Text) : IsTree (.text t)
  | integer (i : Int) : IsTree (.integer i)
  | floating (x : Binary64) : IsTree (.floating x)
  | boolean (b : Bool) : IsTree (.boolean b)
  | datetime : IsTree .datetime
  | list {items : List Value} (h : ∀ item ∈ items, IsTree item) : IsTree (.list items)
  | table (origin : Origin) {entries : List (Text × Value)} (hkeys : (entries.map (·.1)).Nodup)
      (h : ∀ entry ∈ entries, IsTree entry.2) : IsTree (.table origin entries)
  | tables {items : List (List (Text × Value))} (hkeys : ∀ entries ∈ items, (entries.map (·.1)).Nodup)
      (h : ∀ entries ∈ items, ∀ entry ∈ entries, IsTree entry.2) : IsTree (.tables items)

namespace Entries

/-- A table that has no key twice, neither itself nor inside its values. -/
structure IsTree (es : Entries) : Prop where
  keys : (es.map (·.1)).Nodup
  values : ∀ entry ∈ es, entry.2.IsTree

theorem isTree_nil : IsTree [] := ⟨List.nodup_nil, List.forall_mem_nil _⟩

theorem isTree_table_iff {origin : Origin} {es : Entries} : (Value.table origin es).IsTree ↔ IsTree es := by
  constructor
  · intro h
    cases h with
    | table _ hkeys hvalues => exact ⟨hkeys, hvalues⟩
  · rintro ⟨hkeys, hvalues⟩
    exact .table origin hkeys hvalues

theorem isTree_tables_iff {items : List Entries} : (Value.tables items).IsTree ↔ ∀ es ∈ items, IsTree es := by
  constructor
  · intro h es hes
    cases h with
    | tables hkeys hvalues => exact ⟨hkeys es hes, hvalues es hes⟩
  · intro h
    exact .tables (fun es hes => (h es hes).keys) fun es hes => (h es hes).values

variable {es : Entries}

theorem IsTree.of_lookup (h : es.IsTree) {key : Text} {value : Value} (hlookup : es.lookup key = some value) :
    value.IsTree :=
  h.values (key, value) (mem_of_lookup_eq_some hlookup)

theorem lookup_eq_none_iff {key : Text} : es.lookup key = none ↔ key ∉ es.map (·.1) := by
  rw [List.lookup_eq_none_iff, List.mem_map]
  constructor
  · rintro h ⟨entry, hentry, rfl⟩
    exact bne_iff_ne.mp (h entry hentry) rfl
  · intro h entry hentry
    exact bne_iff_ne.mpr fun e => h ⟨entry, hentry, e.symm⟩

/-- A key that is not there may be added. -/
theorem IsTree.append (h : es.IsTree) {key : Text} (hkey : es.lookup key = none) {value : Value} (hvalue : value.IsTree) :
    IsTree (es ++ [(key, value)]) := by
  have hfresh := lookup_eq_none_iff.mp hkey
  constructor
  · rw [List.map_append, List.map_singleton]
    refine List.nodup_append.mpr ⟨h.keys, by simp, ?_⟩
    intro k hk k' hk' e
    obtain rfl := List.mem_singleton.mp hk'
    exact hfresh (e ▸ hk)
  · intro entry hentry
    rcases List.mem_append.mp hentry with hmem | hmem
    · exact h.values entry hmem
    · obtain rfl := List.mem_singleton.mp hmem
      exact hvalue

theorem keys_replace (es : Entries) (key : Text) (value : Value) : (es.replace key value).map (·.1) = es.map (·.1) := by
  rw [replace, List.map_map]
  refine List.map_congr_left fun entry _ => ?_
  by_cases h : entry.1 = key <;> simp [h]

theorem IsTree.replace (h : es.IsTree) (key : Text) {value : Value} (hvalue : value.IsTree) :
    (es.replace key value).IsTree := by
  constructor
  · rw [keys_replace]
    exact h.keys
  · intro entry hentry
    obtain ⟨entry', hmem, rfl⟩ := List.mem_map.mp hentry
    split
    · exact hvalue
    · exact h.values entry' hmem

theorem IsTree.filter (h : es.IsTree) (p : Text × Value → Bool) : IsTree (es.filter p) :=
  ⟨h.keys.sublist (List.filter_sublist.map _), fun entry hentry => h.values entry (List.mem_filter.mp hentry).1⟩

/-- What a change of a table inside keeps is kept. -/
theorem IsTree.changeAt? {dotted : Bool} {change : Origin → Entries → Option Entries}
    (hchange : ∀ origin inner inner', IsTree inner → change origin inner = some inner' → IsTree inner')
    {path : List Text} {origin : Origin} {es' : Entries} (hes : es.IsTree)
    (h : es.changeAt? dotted change path origin = some es') : es'.IsTree := by
  induction path generalizing origin es es' with
  | nil => exact hchange origin es es' hes h
  | cons key path ih =>
    rw [Entries.changeAt?] at h
    split at h
    next hlookup =>
      obtain ⟨inner, hinner, rfl⟩ := Option.map_eq_some_iff.mp h
      exact hes.append hlookup (isTree_table_iff.mpr (ih isTree_nil hinner))
    next origin' inner hlookup =>
      split at h
      · cases h
      · obtain ⟨inner', hinner, rfl⟩ := Option.map_eq_some_iff.mp h
        have hbefore : IsTree inner := isTree_table_iff.mp (hes.of_lookup hlookup)
        exact hes.replace key (isTree_table_iff.mpr (ih hbefore hinner))
    next items hlookup =>
      split at h
      · cases h
      next inner hlast =>
        obtain ⟨inner', hinner, rfl⟩ := Option.map_eq_some_iff.mp h
        have hitems := isTree_tables_iff.mp (hes.of_lookup hlookup)
        have hbefore : IsTree inner := hitems inner (List.mem_of_getLast? hlast)
        refine hes.replace key (isTree_tables_iff.mpr fun item hitem => ?_)
        rcases List.mem_append.mp hitem with hmem | hmem
        · exact hitems item (List.dropLast_subset items hmem)
        · exact List.mem_singleton.mp hmem ▸ ih hbefore hinner
    next => cases h

theorem IsTree.addDotted? (hes : es.IsTree) {origin : Origin} {path : List Text} {key : Text} {value : Value}
    (hvalue : value.IsTree) {es' : Entries} (h : es.addDotted? origin path key value = some es') : es'.IsTree := by
  refine hes.changeAt? ?_ h
  intro origin' inner inner' hinner hadd
  split at hadd
  · cases hadd
  · rw [add?] at hadd
    split at hadd
    · cases hadd
    next hfresh =>
      obtain rfl := Option.some.inj hadd
      exact hinner.append (Option.not_isSome_iff_eq_none.mp hfresh) hvalue

end Entries

/-! ## Values -/

theorem Value.isTree_ofWord? {t : Text} {value : Value} (h : Value.ofWord? t = some value) : value.IsTree := by
  rw [ofWord?] at h
  split at h
  · exact Option.some.inj h ▸ .boolean true
  split at h
  · exact Option.some.inj h ▸ .boolean false
  split at h
  · exact Option.some.inj h ▸ .datetime
  rcases Option.or_eq_some_iff.mp h with h | ⟨-, h⟩
  · obtain ⟨x, -, rfl⟩ := Option.map_eq_some_iff.mp h
    exact .floating x
  · obtain ⟨i, -, rfl⟩ := Option.map_eq_some_iff.mp h
    exact .integer i

theorem isTree_readWord? {t rest : Text} {value : Value} (h : readWord? t = some (value, rest)) : value.IsTree := by
  rw [readWord?] at h
  split at h
  · cases h
    exact .datetime
  · obtain ⟨value', hword, hvalue⟩ := Option.map_eq_some_iff.mp h
    cases hvalue
    exact Value.isTree_ofWord? hword

section
variable {value? : Text → Option (Value × Text)}
variable (hvalue? : ∀ t value rest, value? t = some (value, rest) → value.IsTree)
include hvalue?

theorem isTree_readItems? {fuel : Nat} {before : List Value} (hbefore : ∀ item ∈ before, item.IsTree) {t rest : Text}
    {value : Value} (h : readItems? value? fuel before t = some (value, rest)) : value.IsTree := by
  induction fuel generalizing before t with
  | zero => cases h
  | succ fuel ih =>
    rw [readItems?] at h
    split at h
    · cases h
      exact .list fun item hitem => hbefore item (List.mem_reverse.mp hitem)
    · split at h
      · cases h
      next item rest' hitem =>
        have hitems : ∀ i ∈ item :: before, i.IsTree := List.forall_mem_cons.mpr ⟨hvalue? _ _ _ hitem, hbefore⟩
        split at h
        · exact ih hitems h
        · cases h
          exact .list fun item hitem => hitems item (List.mem_reverse.mp hitem)
        · cases h

theorem isTree_readInline? {fuel : Nat} {entries : Entries} (hentries : entries.IsTree) {t rest : Text} {value : Value}
    (h : readInline? value? fuel entries t = some (value, rest)) : value.IsTree := by
  induction fuel generalizing entries t with
  | zero => cases h
  | succ fuel ih =>
    rw [readInline?] at h
    split at h
    · cases h
    split at h
    · cases h
    next value' _ hvalue =>
      have hadded {es : Entries} {path : List Text} {key : Text}
          (hadd : entries.addDotted? .braces path key value' = some es) : es.IsTree :=
        hentries.addDotted? (hvalue? _ _ _ hvalue) hadd
      split at h
      next hadd _ => exact ih (hadded hadd) h
      next hadd _ =>
        cases h
        exact Entries.isTree_table_iff.mpr (hadded hadd)
      next => cases h

end

theorem isTree_readValue? {depth : Nat} {t rest : Text} {value : Value} (h : readValue? depth t = some (value, rest)) :
    value.IsTree := by
  induction depth generalizing t value rest with
  | zero => cases h
  | succ depth ih =>
    have hquoted {x : Option (Text × Text)} {f : Text × Text → Value × Text} (hf : ∀ read, (f read).1.IsTree)
        (h : x.map f = some (value, rest)) : value.IsTree := by
      obtain ⟨read, -, hread⟩ := Option.map_eq_some_iff.mp h
      have htree := hf read
      rwa [hread] at htree
    unfold readValue? at h
    split at h
    · exact hquoted (fun _ => .text _) h
    · exact hquoted (fun _ => .text _) h
    · split at h
      · cases h
      · exact isTree_readItems? (fun _ _ _ => ih) (List.forall_mem_nil _) h
    · split at h
      · cases h
      split at h
      · cases h
        exact Entries.isTree_table_iff.mpr Entries.isTree_nil
      · exact isTree_readInline? (fun _ _ _ => ih) Entries.isTree_nil h
    · exact isTree_readWord? h

/-! ## Documents -/

namespace Builder

/-- A document so far that has no key twice. -/
structure IsTree (b : Builder) : Prop where
  root : b.root.IsTree
  entries : b.entries.IsTree

variable {b : Builder}

theorem IsTree.close? (h : b.IsTree) {es : Entries} (hclose : b.close? = some es) : es.IsTree := by
  rw [Builder.close?] at hclose
  split at hclose
  · exact Option.some.inj hclose ▸ h.entries
  next key _ =>
    refine h.root.changeAt? ?_ hclose
    intro origin inner inner' hinner hchange
    split at hchange
    next hlookup =>
      exact Option.some.inj hchange ▸ hinner.append hlookup (Entries.isTree_table_iff.mpr h.entries)
    next hlookup =>
      have htables := Entries.isTree_tables_iff.mpr (List.forall_mem_singleton.mpr h.entries)
      exact Option.some.inj hchange ▸ hinner.append hlookup htables
    next items hlookup =>
      have hitems := Entries.isTree_tables_iff.mp (hinner.of_lookup hlookup)
      refine Option.some.inj hchange ▸ hinner.replace key (Entries.isTree_tables_iff.mpr fun es hes => ?_)
      rcases List.mem_append.mp hes with hmem | hmem
      · exact hitems es hmem
      · exact List.mem_singleton.mp hmem ▸ h.entries
    next => cases hchange

theorem isTree_adopted? {path : List Text} {es es' : Entries} (hes : es.IsTree) (h : adopted? path es = some es') :
    es'.IsTree := by
  induction path generalizing es with
  | nil => exact Option.some.inj h ▸ hes
  | cons key path ih =>
    rw [adopted?] at h
    split at h
    · exact Option.some.inj h ▸ Entries.isTree_nil
    next hlookup =>
      split at h
      · cases h
      · exact ih (Entries.isTree_table_iff.mp (hes.of_lookup hlookup)) h
    next hlookup =>
      split at h
      · cases h
      · obtain ⟨inner, hlast, hinner⟩ := Option.bind_eq_some_iff.mp h
        exact ih (Entries.isTree_tables_iff.mp (hes.of_lookup hlookup) inner (List.mem_of_getLast? hlast)) hinner
    · cases h

theorem isTree_openTable? {root : Entries} (hroot : root.IsTree) {path : List Text}
    (h : openTable? root path = some b) : b.IsTree := by
  simp only [openTable?, Option.bind_eq_bind, Option.bind_eq_some_iff] at h
  obtain ⟨key, -, entries, hadopted, root', hchange, hb⟩ := h
  obtain rfl := Option.some.inj hb
  refine ⟨hroot.changeAt? ?_ hchange, isTree_adopted? hroot hadopted⟩
  intro _ inner inner' hinner hfilter
  exact Option.some.inj hfilter ▸ hinner.filter _

theorem IsTree.readHeader? (h : b.IsTree) {t rest : Text} {b' : Builder} (hread : b.readHeader? t = some (b', rest)) :
    b'.IsTree := by
  simp only [Builder.readHeader?, Option.bind_eq_bind, Option.bind_eq_some_iff] at hread
  obtain ⟨root, hclose, ⟨path, rest'⟩, -, rest'', -, rest''', -, hstart⟩ := hread
  have hroot : root.IsTree := h.close? hclose
  split at hstart
  · cases hstart
    exact ⟨hroot, Entries.isTree_nil⟩
  · obtain ⟨opened, hopened, hb⟩ := Option.bind_eq_some_iff.mp hstart
    cases hb
    exact isTree_openTable? hroot hopened

theorem IsTree.readEntry? (h : b.IsTree) {t rest : Text} {b' : Builder} (hread : b.readEntry? t = some (b', rest)) :
    b'.IsTree := by
  simp only [Builder.readEntry?, Option.bind_eq_bind, Option.bind_eq_some_iff] at hread
  obtain ⟨⟨path, key, rest'⟩, -, ⟨value, rest''⟩, hvalue, rest''', -, entries, hadd, hb⟩ := hread
  cases hb
  exact ⟨h.root, h.entries.addDotted? (isTree_readValue? hvalue) hadd⟩

theorem isTree_readLines? {fuel : Nat} (h : b.IsTree) {t : Text} {es : Entries} (hread : readLines? fuel b t = some es) :
    es.IsTree := by
  induction fuel generalizing b t with
  | zero => cases hread
  | succ fuel ih =>
    rw [readLines?] at hread
    split at hread
    · exact h.close? hread
    · obtain ⟨⟨b', rest⟩, hheader, hrest⟩ := Option.bind_eq_some_iff.mp hread
      exact ih (h.readHeader? hheader) hrest
    · split at hread
      · obtain ⟨rest, -, hrest⟩ := Option.bind_eq_some_iff.mp hread
        exact ih h hrest
      · obtain ⟨⟨b', rest⟩, hentry, hrest⟩ := Option.bind_eq_some_iff.mp hread
        exact ih (h.readEntry? hentry) hrest

end Builder

/-- **Tables of a document.** No table has a key twice. -/
theorem isTree_read? {t : Text} {es : Entries} (h : read? t = some es) : es.IsTree :=
  Builder.isTree_readLines? ⟨Entries.isTree_nil, Entries.isTree_nil⟩ h

end BlockHarness.Toml

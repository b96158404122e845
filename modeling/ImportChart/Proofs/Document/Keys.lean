import ImportChart.Document.Reader
import Mathlib.Data.List.Infix
import Mathlib.Data.Option.Basic

/-!
# The keys of a document that is read

However a document is written, none of its tables has a key twice, so that what is found under a key is all that the
document says about it.

- `Yields`: every value that is read has a property, with a lemma for each way in which readings are put together;
- `Value.KeysDistinct`: no table inside a value has a key twice; setting keys and changing places keep this;
- `Draft.KeysDistinct` is kept by one line (`yields_addLine`) and so by all of them (`yields_readLines`);
  `keysDistinct_of_read` says it of the document.
-/

namespace ImportChart.Document

/-! ## What readings yield -/

section

variable {α β : Type} {P : α → Prop} {Q : β → Prop} {r : Reading α} {f : α → Reading β}

/-- Every value that is read has a property. -/
def Yields (P : α → Prop) (r : Reading α) : Prop := ∀ a, r = .ok a → P a

theorem yields_ok {a : α} (h : P a) : Yields P (.ok a : Reading α) := by
  rintro b ⟨⟩
  exact h

theorem yields_error (e : ReadError) : Yields P (.error e : Reading α) := by
  rintro b ⟨⟩

theorem yields_true (r : Reading α) : Yields (fun _ => True) r := fun _ _ => trivial

theorem Yields.bind (h : Yields P r) (hf : ∀ a, P a → Yields Q (f a)) : Yields Q (r >>= f) := by
  intro b hb
  cases r with
  | error e => cases hb
  | ok a => exact hf a (h a rfl) b hb

/-- Of the first part nothing need be known. -/
theorem yields_bind (hf : ∀ a, Yields Q (f a)) : Yields Q (r >>= f) := (yields_true r).bind fun a _ => hf a

theorem Yields.map {g : α → β} (h : Yields P r) (hg : ∀ a, P a → Q (g a)) : Yields Q (r.map g) := by
  intro b hb
  cases r with
  | error e => cases hb
  | ok a => exact Except.ok.inj hb ▸ hg a (h a rfl)

/-- A refusal before the rest. -/
theorem yields_guard {condition : Prop} [Decidable condition] {e : ReadError} {f : PUnit → Reading β}
    (h : Yields Q (f ⟨⟩)) : Yields Q (if condition then throw e >>= f else f ⟨⟩) := by
  split
  · exact yields_error e
  · exact h

end

/-! ## Values without a key that comes twice -/

namespace Value

/-- Whether a value has no values inside it. -/
def isScalar : Value → Bool
  | .list _ | .table _ => false
  | _ => true

/-- No table in a value has a key twice. -/
inductive KeysDistinct : Value → Prop
  | scalar {v : Value} (h : v.isScalar = true) : KeysDistinct v
  | list {items : List Value} (h : ∀ v ∈ items, KeysDistinct v) : KeysDistinct (.list items)
  | table {entries : Entries} (hkeys : (entries.map (·.1)).Nodup) (h : ∀ e ∈ entries, KeysDistinct e.2) :
    KeysDistinct (.table entries)

variable {v new : Value} {entries : Entries} {items : List Value} {key : Text} {f : Value → Value}

namespace KeysDistinct

theorem nil : KeysDistinct (.table []) := .table List.nodup_nil (by simp)

theorem nodup (h : KeysDistinct (.table entries)) : (entries.map (·.1)).Nodup := by
  cases h with
  | scalar h => cases h
  | table hkeys => exact hkeys

theorem of_mem (h : KeysDistinct (.list items)) (hv : v ∈ items) : KeysDistinct v := by
  cases h with
  | scalar h => cases h
  | list h => exact h v hv

theorem of_lookup (h : KeysDistinct (.table entries)) (hv : entries.lookup key = some v) : KeysDistinct v := by
  cases h with
  | scalar h => cases h
  | table _ h => exact h _ (mem_of_lookup_eq_some hv)

/-- What is found under a key, or else an empty table. -/
theorem lookup_getD (h : KeysDistinct (.table entries)) (key : Text) :
    KeysDistinct ((entries.lookup key).getD (.table [])) := by
  cases hlookup : entries.lookup key with
  | none => exact nil
  | some v => exact h.of_lookup hlookup

/-- A key that is set takes its place or a new one. -/
theorem setKey (h : KeysDistinct (.table entries)) (hnew : KeysDistinct new) :
    KeysDistinct (.table (setKey key new entries)) := by
  cases h with
  | scalar h => cases h
  | table hkeys h =>
    refine .table (nodup_keys_setKey hkeys _ _) fun e he => ?_
    rcases mem_of_mem_setKey he with rfl | he
    · exact hnew
    · exact h e he

theorem concat (h : KeysDistinct (.list items)) (hnew : KeysDistinct new) : KeysDistinct (.list (items ++ [new])) := by
  refine .list fun v hv => ?_
  rcases List.mem_append.mp hv with hv | hv
  · exact h.of_mem hv
  · exact List.mem_singleton.mp hv ▸ hnew

theorem dropLast (h : KeysDistinct (.list items)) : KeysDistinct (.list items.dropLast) :=
  .list fun _ hv => h.of_mem (List.mem_of_mem_dropLast hv)

/-! ### Places -/

theorem step? (h : KeysDistinct v) (s : Step) {inner : Value} (hstep : v.step? s = some inner) :
    KeysDistinct inner := by
  cases s with
  | key k =>
    cases v with
    | table entries => exact h.of_lookup hstep
    | _ => cases hstep
  | last =>
    cases v with
    | list items => exact h.of_mem (List.mem_of_getLast? hstep)
    | text t =>
      obtain ⟨c, -, rfl⟩ := Option.map_eq_some_iff.mp hstep
      exact .scalar rfl
    | _ => cases hstep

theorem at? (h : KeysDistinct v) {place : List Step} {inner : Value} (hplace : v.at? place = some inner) :
    KeysDistinct inner := by
  induction place generalizing v with
  | nil => exact Option.some.inj hplace ▸ h
  | cons s place ih =>
    obtain ⟨w, hstep, hplace⟩ := Option.bind_eq_some_iff.mp hplace
    exact ih (h.step? s hstep) hplace

/-- The value at a place, or else an empty table. -/
theorem at?_getD (h : KeysDistinct v) (place : List Step) : KeysDistinct ((v.at? place).getD (.table [])) := by
  cases hplace : v.at? place with
  | none => exact nil
  | some inner => exact h.at? hplace

theorem replaceStep (h : KeysDistinct v) (s : Step) (hnew : KeysDistinct new) : KeysDistinct (v.replaceStep s new) := by
  cases s with
  | key k =>
    cases v with
    | table entries => exact h.setKey hnew
    | _ => exact h
  | last =>
    cases v with
    | list items => exact h.dropLast.concat hnew
    | _ => exact h

theorem set (h : KeysDistinct v) (hnew : KeysDistinct new) : KeysDistinct (v.set key new) := h.replaceStep _ hnew

theorem modify (h : KeysDistinct v) (hf : ∀ w, KeysDistinct w → KeysDistinct (f w)) (place : List Step) :
    KeysDistinct (v.modify f place) := by
  induction place generalizing v with
  | nil => exact hf v h
  | cons s place ih =>
    rw [Value.modify]
    split
    · next inner hstep => exact h.replaceStep s (ih (h.step? s hstep))
    · exact h

end KeysDistinct

end Value

open Value (KeysDistinct isScalar)

/-! ## Reading a value -/

theorem isScalar_negate {v : Value} (h : v.isScalar = true) : (negate v).isScalar = true := by
  cases v <;> first | rfl | exact h

theorem yields_readUnsigned (v : Text) : Yields (fun w => w.isScalar = true) (readUnsigned v) := by
  have hmap {α : Type} {x : Option α} {g : α → Value} {w : Value} (hg : ∀ a, (g a).isScalar = true)
      (h : x.map g = some w) : w.isScalar = true := by
    obtain ⟨a, -, rfl⟩ := Option.map_eq_some_iff.mp h
    exact hg a
  unfold readUnsigned
  dsimp only
  split
  · next w hfound =>
    refine yields_ok ?_
    split_ifs at hfound
    · exact hmap (fun _ => rfl) hfound
    · exact hmap (fun _ => rfl) hfound
    · exact hmap (fun _ => rfl) hfound
  · exact yields_error _

theorem yields_readNumber (v : Text) : Yields (fun w => w.isScalar = true) (readNumber v) := by
  refine (yields_readUnsigned _).map fun w hw => ?_
  split_ifs
  · exact isScalar_negate hw
  · exact hw

theorem yields_readMoment? (v : Text) :
    Yields (fun moment? => ∀ w, moment? = some w → w.isScalar = true) (readMoment? v) := by
  unfold readMoment?
  refine yields_bind fun behind => ?_
  dsimp only
  split
  · exact yields_ok (by rintro w ⟨⟩)
  refine yields_ok fun w hw => ?_
  obtain ⟨year, -, hw⟩ := Option.bind_eq_some_iff.mp hw
  obtain ⟨month, -, hw⟩ := Option.bind_eq_some_iff.mp hw
  obtain ⟨day, -, hw⟩ := Option.bind_eq_some_iff.mp hw
  obtain ⟨_, -, hw⟩ := Option.bind_eq_some_iff.mp hw
  split at hw
  · exact Option.some.inj hw ▸ rfl
  obtain ⟨_, -, hw⟩ := Option.bind_eq_some_iff.mp hw
  obtain ⟨hour, -, hw⟩ := Option.bind_eq_some_iff.mp hw
  obtain ⟨minute, -, hw⟩ := Option.bind_eq_some_iff.mp hw
  obtain ⟨second, -, hw⟩ := Option.bind_eq_some_iff.mp hw
  obtain ⟨_, -, hw⟩ := Option.bind_eq_some_iff.mp hw
  exact Option.some.inj hw ▸ rfl

section

variable {read : ValueReader}

/-- How the items of a list and the entries of a table are read, if the values in them are read so. -/
theorem yields_readItems (hread : ∀ v plain, Yields KeysDistinct (read v plain)) (kind : Option ItemKind)
    (pieces : List Text) : Yields (fun values => ∀ v ∈ values, KeysDistinct v) (readItems read kind pieces) := by
  induction pieces generalizing kind with
  | nil => exact yields_ok (by simp)
  | cons piece rest ih =>
    rw [readItems]
    refine (hread piece true).bind fun value hvalue => yields_guard ?_
    exact (ih _).bind fun values hvalues => yields_ok (List.forall_mem_cons.mpr ⟨hvalue, hvalues⟩)

theorem yields_openTables {current : Value} (hcurrent : KeysDistinct current) (names : List Text) :
    Yields KeysDistinct (openTables names current) := by
  induction names generalizing current with
  | nil => exact yields_ok hcurrent
  | cons name names ih =>
    cases current with
    | table entries =>
      exact (ih (hcurrent.lookup_getD name)).bind fun below hbelow => yields_ok (hcurrent.setKey hbelow)
    | _ => exact yields_error _

theorem yields_readEntryWith (hread : ∀ v plain, Yields KeysDistinct (read v plain)) (line : Text) {current : Value}
    (hcurrent : KeysDistinct current) : Yields (fun r => KeysDistinct r.1) (readEntryWith read line current) := by
  unfold readEntryWith
  refine yields_bind fun entry => yields_bind fun parts => ?_
  refine (yields_openTables hcurrent parts.1).bind fun current hcurrent => yields_bind fun length => ?_
  cases length with
  | some n =>
    -- the value goes on on the next line, so that nothing is set now
    dsimp only
    split
    · rw [pure_bind]
      refine yields_guard ?_
      dsimp only
      split
      · exact yields_error _
      · exact yields_ok hcurrent
    · exact yields_error _
  | none =>
    have hvalue := (hread entry.value entry.plain).map (Q := fun value? => ∀ v, value? = some v → KeysDistinct v)
      (g := some) fun v hv w hw => Option.some.inj hw ▸ hv
    refine hvalue.bind fun value? hvalue => ?_
    split
    · refine yields_guard ?_
      split
      · next value => exact yields_ok (hcurrent.modify (fun w hw => hw.set (hvalue value rfl)) _)
      · cases ‹none = some _›
      · exact yields_error _
    · exact yields_error _

theorem yields_readEntriesWith (hread : ∀ v plain, Yields KeysDistinct (read v plain)) (entries : List Text)
    {current : Value} (hcurrent : KeysDistinct current) :
    Yields KeysDistinct (readEntriesWith read entries current) := by
  induction entries generalizing current with
  | nil => exact yields_ok hcurrent
  | cons entry rest ih =>
    rw [readEntriesWith]
    refine (yields_readEntryWith hread entry hcurrent).bind fun r hr => ?_
    split
    · exact ih hr
    · exact yields_ok hr

theorem yields_readInlineTableWith (hread : ∀ v plain, Yields KeysDistinct (read v plain)) (v : Text)
    {current : Value} (hcurrent : KeysDistinct current) :
    Yields KeysDistinct (readInlineTableWith read v current) :=
  yields_bind fun _ => yields_readEntriesWith hread _ hcurrent

theorem yields_readValueWith (hread : ∀ v plain, Yields KeysDistinct (read v plain)) (v : Text) (plain : Bool) :
    Yields KeysDistinct (readValueWith read v plain) := by
  cases v with
  | nil => exact yields_error _
  | cons c rest =>
    rw [readValueWith]
    split
    · exact yields_ok (.scalar rfl)
    split
    · exact yields_ok (.scalar rfl)
    split
    · exact yields_error _
    split
    · exact (yields_true _).map fun t _ => .scalar rfl
    split
    · exact yields_bind fun pieces => (yields_readItems hread none pieces).bind fun values hvalues =>
        yields_ok (.list hvalues)
    split
    · exact yields_readInlineTableWith hread _ .nil
    split
    · split
      · exact yields_ok (.scalar rfl)
      · exact yields_error _
    refine (yields_readMoment? _).bind fun moment? hmoment => ?_
    split
    · next moment => exact yields_ok (.scalar (hmoment moment rfl))
    split
    · exact fun w hw => .scalar (yields_readNumber _ w hw)
    · exact yields_error _

end

/-- **No table that is read has a key twice**, however deep it stands in a value. -/
theorem yields_readNested (depth : Nat) (v : Text) (plain : Bool) : Yields KeysDistinct (readNested depth v plain) := by
  induction depth generalizing v plain with
  | zero => exact yields_error _
  | succ depth ih => exact yields_readValueWith ih v plain

theorem yields_readValue (v : Text) (plain : Bool) : Yields KeysDistinct (readValue v plain) :=
  yields_readNested _ v plain

/-! ## Reading a document -/

/-- No table of a document on the way has a key twice. -/
def Draft.KeysDistinct (d : Draft) : Prop := d.root.KeysDistinct

namespace Draft

variable {d : Draft}

theorem keysDistinct_fresh (inList : Bool) : (fresh inList).KeysDistinct := by
  cases inList with
  | false => exact .nil
  | true => exact .list (List.forall_mem_singleton.mpr .nil)

theorem yields_openName (h : d.KeysDistinct) (inList isLast : Bool) (name : Text) :
    Yields KeysDistinct (d.openName inList isLast name) := by
  have hhere := Value.KeysDistinct.at?_getD h d.here
  unfold openName
  refine yields_guard ?_
  dsimp only
  split
  · next entries htable =>
    rw [htable] at hhere
    split
    · exact yields_ok (Value.KeysDistinct.modify h (fun w hw => hw.set (keysDistinct_fresh _)) _)
    next old hlookup =>
    split
    · exact yields_ok h
    split
    · exact yields_guard (yields_ok h)
    split
    · exact yields_error _
    split
    · next items =>
      exact yields_ok (Value.KeysDistinct.modify h (fun _ _ => (hhere.of_lookup hlookup).concat .nil) _)
    · exact yields_error _
  · split
    · exact yields_error _
    · refine yields_ok ?_
      change Value.KeysDistinct (if _ then _ else _)
      split
      · exact h
      · exact Value.KeysDistinct.modify h (fun w hw => hw.set (keysDistinct_fresh _)) _
    · exact yields_error _
  · exact yields_error _
  · exact yields_error _

theorem yields_enterList (h : d.KeysDistinct) : Yields KeysDistinct d.enterList := by
  unfold enterList
  split
  · exact yields_ok h
  · exact yields_error _
  · exact yields_error _
  · exact yields_ok h
  · exact yields_ok h
  · exact yields_error _

theorem yields_followNames (h : d.KeysDistinct) (inList : Bool) (names : List Text) :
    Yields KeysDistinct (followNames inList names d) := by
  induction names generalizing d with
  | nil => exact yields_ok h
  | cons name names ih =>
    rw [followNames]
    refine (yields_openName h _ _ _).bind fun d hd => ?_
    cases inList with
    | false => exact ih hd
    | true => exact (yields_enterList hd).bind fun d hd => ih hd

theorem yields_openTable (h : d.KeysDistinct) (header : HeaderLine) : Yields KeysDistinct (d.openTable header) :=
  yields_followNames (d := { d with here := [] }) h _ _

/-- The table in the open place, or else an empty one. -/
theorem KeysDistinct.open (h : d.KeysDistinct) : ((d.root.at? d.here).getD (.table [])).KeysDistinct :=
  Value.KeysDistinct.at?_getD h _

theorem yields_addEntry (h : d.KeysDistinct) (line : Text) : Yields KeysDistinct (d.addEntry line) :=
  (yields_readEntryWith yields_readValue line h.open).bind fun _ hr =>
    yields_ok (Value.KeysDistinct.modify h (fun _ _ => hr) _)

theorem yields_addInlineTable (h : d.KeysDistinct) (line : Text) : Yields KeysDistinct (d.addInlineTable line) := by
  unfold addInlineTable
  refine yields_guard ?_
  exact (yields_readInlineTableWith yields_readValue line h.open).bind fun table htable =>
    yields_ok (Value.KeysDistinct.modify h (fun _ _ => htable) _)

theorem yields_addText (h : d.KeysDistinct) (p : Pending) (line : Text) : Yields KeysDistinct (d.addText p line) := by
  unfold addText
  refine yields_bind fun closed => ?_
  split
  · exact (yields_readValue _ true).bind fun value hvalue =>
      yields_ok (Value.KeysDistinct.modify h (fun _ hw => hw.set hvalue) _)
  split
  · exact yields_ok h
  · exact yields_ok h

/-- **One line gives no table a key twice.** -/
theorem yields_addLine (h : d.KeysDistinct) (line : Text) : Yields KeysDistinct (d.addLine line) := by
  unfold addLine
  dsimp only
  generalize (if trims d.pending = true then Text.trim line else line) = line
  split
  · exact yields_ok h
  · split
    · exact yields_ok h
    · exact yields_addText h _ _
  · exact yields_addText h _ _
  · split
    · exact yields_bind fun header => yields_openTable h header
    split
    · exact yields_addInlineTable h _
    split
    · exact yields_addEntry h _
    · exact yields_ok h

end Draft

/-- So do all lines of a document. -/
theorem yields_readLines (lines : List Text) : Yields Draft.KeysDistinct (readLines lines) := by
  have hrun (d : Draft) (hd : d.KeysDistinct) :
      Yields Draft.KeysDistinct (lines.foldlM (fun d line => d.addLine line) d) := by
    induction lines generalizing d with
    | nil => exact yields_ok hd
    | cons line lines ih =>
      rw [List.foldlM_cons]
      exact (Draft.yields_addLine hd line).bind fun d hd => ih d hd
  exact hrun {} .nil

/-- **No table of a document that is read has a key twice.** -/
theorem keysDistinct_of_read {t : Text} {entries : Entries} (h : read t = .ok entries) :
    KeysDistinct (.table entries) := by
  have hyields : Yields (fun entries => KeysDistinct (.table entries)) (read t) := by
    unfold read
    refine yields_bind fun lines => (yields_readLines lines).bind fun d hd => ?_
    split
    · next entries hroot => exact yields_ok (hroot ▸ hd)
    · exact yields_ok .nil
  exact hyields entries h

end ImportChart.Document

import Mathlib
import NbdAttach.Proofs.Json.Records

/-!
# Layers

A `Layer` over the fields of a record has a slot for each field, and in it a change of that field or
nothing. The names and the order of the changes are then those of the fields, so a value that states
the changes of a layer is read as the defaults with these changes (`Layer.readRecord`,
`Layer.decodeRecord`), and the record is found slot by slot (`all_reduceOption`).
-/

namespace NbdAttach.Json

variable {α β : Type}

/-- A change in the slot is one of this field. -/
def Fits (field : FieldReader α) (slot : Option (Change α)) : Prop :=
  ∀ change ∈ slot, change.name = field.name ∧ field.Takes change

/-- The changes in two slots commute. -/
def Apart (a b : Option (Change α)) : Prop :=
  ∀ x ∈ a, ∀ y ∈ b, x.Commute y

/-- For each field of a record the change of it, if there is one. -/
structure Layer (fields : List (FieldReader α)) where
  slots : List (Option (Change α))
  fits : List.Forall₂ Fits fields slots
  apart : slots.Pairwise Apart

/-- A record after the change in a slot. -/
def fill (record : α) (slot : Option (Change α)) : α :=
  slot.elim record fun change => change.put record

/-- A slot that was made of an optional value sets a field to that value, or leaves it as it is. -/
theorem fill_map {make : β → Change α} (b? : Option β) (record : α) (old : β)
    (hold : (make old).put record = record) :
    fill record (b?.map make) = (make (b?.getD old)).put record := by
  cases b? with
  | none => exact hold.symm
  | some b => rfl

/-- To make the changes of a layer is to go through its slots. -/
theorem all_reduceOption (slots : List (Option (Change α))) (record : α) :
    Change.all slots.reduceOption record = slots.foldl fill record := by
  induction slots generalizing record with
  | nil => rfl
  | cons slot slots ih =>
    cases slot with
    | none =>
      rw [List.reduceOption_cons_of_none]
      exact ih record
    | some change =>
      rw [List.reduceOption_cons_of_some]
      exact ih (change.put record)

/-- The changes have the names of their fields, in the same order. -/
theorem names_sublist {fields : List (FieldReader α)} {slots : List (Option (Change α))}
    (hfits : List.Forall₂ Fits fields slots) :
    (slots.reduceOption.map Change.name).Sublist (fields.map FieldReader.name) := by
  induction hfits with
  | nil => exact List.Sublist.slnil
  | @cons field slot fields slots hfits hrest ih =>
    cases slot with
    -- an empty slot leaves out the name of its field
    | none =>
      rw [List.reduceOption_cons_of_none]
      exact ih.cons _
    | some change =>
      rw [List.reduceOption_cons_of_some, List.map_cons, List.map_cons, (hfits change rfl).1]
      exact ih.cons_cons _

namespace Layer

variable {fields : List (FieldReader α)}

/-- The changes, in the order of the fields. -/
def changes (layer : Layer fields) : List (Change α) :=
  layer.slots.reduceOption

theorem mem_changes {layer : Layer fields} {change : Change α} :
    change ∈ layer.changes ↔ some change ∈ layer.slots :=
  List.reduceOption_mem_iff

/-- Every change has a field of its name, which takes it. -/
theorem exists_field (layer : Layer fields) {change : Change α} (hchange : change ∈ layer.changes) :
    ∃ field ∈ fields, field.name = change.name ∧ field.Takes change := by
  -- a slot stands at the place of its field, so the field of that place takes it
  obtain ⟨i, hi, hslot⟩ := List.getElem_of_mem (mem_changes.mp hchange)
  have hlength := layer.fits.length_eq
  have hfits : Fits fields[i] layer.slots[i] := layer.fits.get (by omega) hi
  obtain ⟨hname, htakes⟩ := hfits change (by rw [hslot]; rfl)
  exact ⟨fields[i], List.getElem_mem _, hname.symm, htakes⟩

/-- The changes of a layer can be made in any order. -/
theorem commute (layer : Layer fields) :
    ∀ x ∈ layer.changes, ∀ y ∈ layer.changes, x.Commute y := by
  have hpairwise : (layer.slots.filterMap id).Pairwise Change.Commute := by
    rw [List.pairwise_filterMap]
    exact layer.apart.imp fun h x hx y hy => h x hx y hy
  -- a change commutes with itself
  exact hpairwise.forall_of_forall fun x _ r => rfl

section Distinct

variable (hnames : (fields.map FieldReader.name).Nodup)
include hnames

theorem distinct (layer : Layer fields) : (layer.changes.map Change.name).Nodup :=
  (names_sublist layer.fits).nodup hnames

/-- Whichever field has the name of a change takes it, since there is one field of each name. -/
theorem readBy (layer : Layer fields) : ReadBy fields layer.changes := by
  intro change hchange field hfield hname
  obtain ⟨found, hfound, hfoundName, htakes⟩ := layer.exists_field hchange
  have hsame : found = field :=
    List.inj_on_of_nodup_map hnames hfound hfield (hfoundName.trans hname.symm)
  exact hsame ▸ htakes

/-- A spelling of a value that states the changes of a layer is read as the defaults with the slots
filled in. -/
theorem readRecord (layer : Layer fields) {v : Value}
    (hstates : v.States (fields.map FieldReader.name) layer.changes) {before text : List Char}
    (hbefore : Blanks before) (htext : Spells (.value v) text) (expected : String)
    (rest : List Char) (default : α) :
    Json.readRecord expected fields default (before ++ (text ++ rest)) =
      .ok (layer.slots.foldl fill default, rest) := by
  rw [← all_reduceOption]
  exact readRecord_of_states hstates (layer.readBy hnames) (layer.distinct hnames) layer.commute
    hbefore htext rest default

/-- The same for a text that holds nothing but that value. -/
theorem decodeRecord (layer : Layer fields) {v : Value}
    (hstates : v.States (fields.map FieldReader.name) layer.changes) {text : List Char}
    (htext : v.Document text) (expected : String) (default : α) :
    Json.decodeRecord expected fields default text = .ok (layer.slots.foldl fill default) := by
  rw [← all_reduceOption]
  exact decodeRecord_of_states hstates (layer.readBy hnames) (layer.distinct hnames) layer.commute
    htext default

end Distinct

end Layer

/-! ### Slots that hold values -/

/-- A slot fits where its value, if there is one, becomes a change of the field. -/
theorem fits_map {field : FieldReader α} {make : β → Change α}
    (hmake : ∀ b, (make b).name = field.name ∧ field.Takes (make b)) (b? : Option β) :
    Fits field (b?.map make) := by
  intro change hchange
  obtain ⟨b, -, rfl⟩ := Option.mem_map.mp hchange
  exact hmake b

/-- Two slots are apart where the changes that their values become commute. -/
theorem apart_map {γ : Type} {make : β → Change α} {make' : γ → Change α}
    (hcommute : ∀ b c, (make b).Commute (make' c)) (b? : Option β) (c? : Option γ) :
    Apart (b?.map make) (c?.map make') := by
  intro x hx y hy
  obtain ⟨b, -, rfl⟩ := Option.mem_map.mp hx
  obtain ⟨c, -, rfl⟩ := Option.mem_map.mp hy
  exact hcommute b c

section Takes

variable {field : FieldReader α} {change : Change α}

/-- A field that reads a value and puts it in takes the change to what is read. -/
theorem takes_of_read {read : List Char → Except Failure (β × List Char)} (put : α → β → α) {b : β}
    (hfield : ∀ r text, field.read r text = (read text).map fun (x, rest) => (put r x, rest))
    (hread : ∀ (v : Value) (before text rest : List Char), change.statedBy v → Blanks before →
      Spells (.value v) text → EndsNumeral rest → read (before ++ (text ++ rest)) = .ok (b, rest))
    (hput : ∀ r, put r b = change.put r) : field.Takes change := by
  intro v record before text rest hstated hbefore htext hrest
  rw [hfield, hread v before text rest hstated hbefore htext hrest, ← hput]
  rfl

/-- A field that is read as a text takes a change that only that text states. -/
theorem takes_text {expected s : String} {put : α → String → α}
    (hfield : ∀ r text, field.read r text =
      (readText expected text).map fun (x, rest) => (put r x, rest))
    (hstated : ∀ v, change.statedBy v → v = .text s) (hput : ∀ r, put r s = change.put r) :
    field.Takes change := by
  refine takes_of_read put hfield (fun v before text rest hv hbefore htext _ => ?_) hput
  obtain rfl := hstated v hv
  exact readText_of_spells hbefore htext rest

/-- A field that is read as a number takes a change that only that number states, if it allows
numbers of this size. -/
theorem takes_natural {expected : String} {n max : Nat} (put : α → Nat → α) (hn : n ≤ max)
    (hmax : max ≤ maxWord)
    (hfield : ∀ r text, field.read r text =
      (readNatural expected max text).map fun (x, rest) => (put r x, rest))
    (hstated : ∀ v, change.statedBy v → v = .natural n) (hput : ∀ r, put r n = change.put r) :
    field.Takes change := by
  refine takes_of_read put hfield (fun v before text rest hv hbefore htext hrest => ?_) hput
  obtain rfl := hstated v hv
  exact readNatural_of_spells hn hmax hbefore htext hrest

end Takes

end NbdAttach.Json

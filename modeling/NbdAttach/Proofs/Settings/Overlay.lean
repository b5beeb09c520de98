import Mathlib
import NbdAttach.Proofs.Json.Layers
import NbdAttach.Proofs.Json.Writing
import NbdAttach.Proofs.Settings.Validity

/-!
# Settings files as overlays

A settings file changes some of the defaults. `Settings.Changes` has one optional value for each
field, and a JSON value states such changes (`Settings.Changes.StatedBy`) when it is an object with
one member for each of them, in any order and with any other members between, or a list of the
values of the first fields. The bounds of the wait are a record of the same kind inside.

Every text that spells such a value is decoded as the defaults with these changes and nothing else
changed, and is loaded exactly if the result is valid (`Settings.overlay_law`).
-/

namespace NbdAttach

open Json

/-! ### The bounds of the wait -/

namespace Readiness

theorem nodup_fields : (fields.map FieldReader.name).Nodup := by
  decide

/-- Values for some of the bounds. -/
structure Changes where
  pollInterval? : Option UInt64 := none
  maxWait? : Option UInt64 := none

namespace Changes

/-- Bounds with some of them replaced. -/
def apply (c : Changes) (r : Readiness) : Readiness where
  pollInterval := c.pollInterval?.getD r.pollInterval
  maxWait := c.maxWait?.getD r.maxWait

def slots (c : Changes) : List (Option (Change Readiness)) :=
  [c.pollInterval?.map fun ms =>
      ⟨"pollIntervalMs", fun v => v = .natural ms.toNat, fun r => { r with pollInterval := ms }⟩,
   c.maxWait?.map fun ms =>
      ⟨"maxWaitMs", fun v => v = .natural ms.toNat, fun r => { r with maxWait := ms }⟩]

theorem le_maxWord (ms : UInt64) : ms.toNat ≤ maxWord :=
  Nat.le_of_lt_succ ms.toNat_lt

/-- The changes, slot by slot. -/
def layer (c : Changes) : Layer Readiness.fields where
  slots := c.slots
  fits := by
    refine .cons (fits_map (fun ms => ⟨rfl, ?_⟩) _) (.cons (fits_map (fun ms => ⟨rfl, ?_⟩) _) .nil)
    · exact takes_natural (fun r n => { r with pollInterval := UInt64.ofNat n }) (le_maxWord ms)
        (Nat.le_refl _) (fun _ _ => rfl) (fun _ h => h) fun r => by rw [UInt64.ofNat_toNat]
    · exact takes_natural (fun r n => { r with maxWait := UInt64.ofNat n }) (le_maxWord ms)
        (Nat.le_refl _) (fun _ _ => rfl) (fun _ h => h) fun r => by rw [UInt64.ofNat_toNat]
  apart := by
    refine .cons ?_ (.cons ?_ .nil)
    · intro slot hslot
      obtain rfl := List.mem_singleton.mp hslot
      refine apart_map ?_ _ _
      exact fun _ _ _ => rfl
    · nofun

/-- To fill the slots one by one is to apply the changes. -/
theorem foldl_slots (c : Changes) (r : Readiness) : c.slots.foldl fill r = c.apply r := by
  show fill (fill r (c.pollInterval?.map _)) (c.maxWait?.map _) = _
  rw [fill_map c.pollInterval? r r.pollInterval rfl, fill_map c.maxWait? _ r.maxWait rfl]
  rfl

/-- The values that state changes of the bounds. As in `Json.Value.States`, the names of an object's
own members are texts. -/
def StatedBy (c : Changes) (v : Value) : Prop :=
  v.States (Readiness.fields.map FieldReader.name) c.slots.reduceOption

end Changes

end Readiness

/-! ### Settings -/

namespace Settings

theorem nodup_fields : (fields.map FieldReader.name).Nodup := by
  decide

/-- Values for some of the fields. -/
structure Changes where
  serverExecutable? : Option String := none
  clientExecutable? : Option String := none
  pluginName? : Option String := none
  socketDir? : Option Path := none
  paramPrefix? : Option String := none
  bucketParam? : Option String := none
  exitFilter? : Option String := none
  clientBlockSize? : Option UInt32 := none
  readiness? : Option Readiness.Changes := none

namespace Changes

/-- Settings with some of the fields replaced. New bounds of the wait replace defaults and not the
bounds that were there. -/
def apply (c : Changes) (s : Settings) : Settings where
  serverExecutable := c.serverExecutable?.getD s.serverExecutable
  clientExecutable := c.clientExecutable?.getD s.clientExecutable
  pluginName := c.pluginName?.getD s.pluginName
  socketDir := c.socketDir?.getD s.socketDir
  paramPrefix := c.paramPrefix?.getD s.paramPrefix
  bucketParam := c.bucketParam?.getD s.bucketParam
  exitFilter := c.exitFilter?.getD s.exitFilter
  clientBlockSize := c.clientBlockSize?.getD s.clientBlockSize
  readiness := (c.readiness?.map (·.apply {})).getD s.readiness

/-- The change of a field that holds a text. -/
def textChange (name s : String) (put : Settings → Settings) : Change Settings :=
  ⟨name, fun v => v = .text s, put⟩

def slots (c : Changes) : List (Option (Change Settings)) :=
  [c.serverExecutable?.map fun x =>
      textChange "serverExecutable" x fun s => { s with serverExecutable := x },
   c.clientExecutable?.map fun x =>
      textChange "clientExecutable" x fun s => { s with clientExecutable := x },
   c.pluginName?.map fun x => textChange "pluginName" x fun s => { s with pluginName := x },
   c.socketDir?.map fun x => textChange "socketDir" x.text fun s => { s with socketDir := x },
   c.paramPrefix?.map fun x => textChange "paramPrefix" x fun s => { s with paramPrefix := x },
   c.bucketParam?.map fun x => textChange "bucketParam" x fun s => { s with bucketParam := x },
   c.exitFilter?.map fun x => textChange "exitFilter" x fun s => { s with exitFilter := x },
   c.clientBlockSize?.map fun x =>
      ⟨"clientBlockSize", fun v => v = .natural x.toNat, fun s => { s with clientBlockSize := x }⟩,
   c.readiness?.map fun x =>
      ⟨"readiness", fun v => x.StatedBy v, fun s => { s with readiness := x.apply {} }⟩]

/-- A field that holds a text takes the change of that text. -/
theorem takes_textField {expected name x : String} {put : Settings → String → Settings}
    {change : Settings → Settings} (hput : ∀ s, put s x = change s) :
    (textField expected name put).Takes (textChange name x change) :=
  takes_text (fun _ _ => rfl) (fun _ h => h) hput

/-- A field that holds a text has a slot for texts of its name. -/
theorem fits_textField {β : Type} {expected name : String} {put : Settings → String → Settings}
    {text : β → String} {change : β → Settings → Settings}
    (hput : ∀ x s, put s (text x) = change x s) (x? : Option β) :
    Fits (textField expected name put) (x?.map fun x => textChange name (text x) (change x)) :=
  fits_map (fun x => ⟨rfl, takes_textField (hput x)⟩) x?

/-- Each field has its slot. -/
theorem fits (c : Changes) : List.Forall₂ Fits Settings.fields c.slots := by
  -- seven texts, the block size and the bounds of the wait
  refine .cons (fits_textField (fun _ _ => rfl) _) (.cons (fits_textField (fun _ _ => rfl) _)
    (.cons (fits_textField (fun _ _ => rfl) _) (.cons (fits_textField (fun _ _ => rfl) _)
    (.cons (fits_textField (fun _ _ => rfl) _) (.cons (fits_textField (fun _ _ => rfl) _)
    (.cons (fits_textField (fun _ _ => rfl) _) (.cons (fits_map (fun x => ⟨rfl, ?_⟩) _)
    (.cons (fits_map (fun x => ⟨rfl, ?_⟩) _) .nil))))))))
  · exact takes_natural (fun s n => { s with clientBlockSize := UInt32.ofNat n })
      (Nat.le_of_lt_succ x.toNat_lt) (by decide) (fun _ _ => rfl) (fun _ h => h)
      fun s => by rw [UInt32.ofNat_toNat]
  · refine takes_of_read (fun s r => { s with readiness := r }) (fun _ _ => rfl)
      (fun v before text rest hv hbefore hvalue _ => ?_) fun _ => rfl
    -- the value of the last field is a record of its own, read as an overlay on the default bounds
    have hread := x.layer.readRecord Readiness.nodup_fields hv hbefore hvalue
      "struct ReadinessConfig" rest {}
    rwa [show x.layer.slots.foldl fill {} = x.apply {} from x.foldl_slots {}] at hread

/-- No two changes are of the same field, so all of them commute. -/
theorem apart (c : Changes) : c.slots.Pairwise Apart := by
  unfold slots
  simp only [List.pairwise_cons, List.mem_cons, List.not_mem_nil, or_false, forall_eq_or_imp,
    forall_eq, IsEmpty.forall_iff, implies_true, List.Pairwise.nil, and_true]
  and_intros
  all_goals
    refine apart_map ?_ _ _
    exact fun _ _ _ => rfl

/-- The changes, slot by slot. -/
def layer (c : Changes) : Layer Settings.fields where
  slots := c.slots
  fits := c.fits
  apart := c.apart

/-- Filling all slots of the settings applies the changes to them. -/
theorem foldl_slots (c : Changes) (s : Settings) : c.slots.foldl fill s = c.apply s := by
  show fill (fill (fill (fill (fill (fill (fill (fill (fill s (c.serverExecutable?.map _))
    (c.clientExecutable?.map _)) (c.pluginName?.map _)) (c.socketDir?.map _))
    (c.paramPrefix?.map _)) (c.bucketParam?.map _)) (c.exitFilter?.map _))
    (c.clientBlockSize?.map _)) (c.readiness?.map _) = _
  rw [fill_map c.serverExecutable? _ s.serverExecutable rfl,
    fill_map c.clientExecutable? _ s.clientExecutable rfl,
    fill_map c.pluginName? _ s.pluginName rfl, fill_map c.socketDir? _ s.socketDir rfl,
    fill_map c.paramPrefix? _ s.paramPrefix rfl, fill_map c.bucketParam? _ s.bucketParam rfl,
    fill_map c.exitFilter? _ s.exitFilter rfl,
    fill_map c.clientBlockSize? _ s.clientBlockSize rfl]
  -- what is left are the bounds, which replace defaults and not what was there
  unfold apply
  cases c.readiness? with
  | none => rfl
  | some bounds => rfl

/-- The values that state changes of settings. Other members may stand between those of the changes,
with any value, but the names of all of them are texts: a name with half of a surrogate pair in it
is refused by the decoder. -/
def StatedBy (c : Changes) (v : Value) : Prop :=
  v.States (Settings.fields.map FieldReader.name) c.slots.reduceOption

end Changes

/-- A text that spells some changes is decoded as the defaults with these changes. -/
theorem decode_of_stated {c : Changes} {v : Value} (hv : c.StatedBy v) {text : String}
    (htext : v.Document text.toList) : decode text = .ok (c.apply {}) := by
  -- the reader fills the slots into the defaults
  have hread := c.layer.decodeRecord nodup_fields hv htext "struct TrampolineSettings" {}
  rwa [show c.layer.slots.foldl fill {} = c.apply {} from c.foldl_slots {}] at hread

/-- A settings file is an overlay on the defaults: only the changes that its value states make a
difference, and they do all of it. What comes out is returned if it is valid, and its fault is
reported if it is not. -/
theorem overlay_law {c : Changes} {v : Value} (hv : c.StatedBy v) {text : String}
    (htext : v.Document text.toList) (path : Path) :
    decode text = .ok (c.apply {}) ∧
      (load path (.ok text.toUTF8) = .ok (c.apply {}) ↔ (c.apply {}).IsValid) ∧
      (¬(c.apply {}).IsValid → ∃ fault, (c.apply {}).validate = .error fault ∧
        load path (.ok text.toUTF8) = .error (.invalid fault)) := by
  have hdecode : decode text = .ok (c.apply {}) := decode_of_stated hv htext
  rw [load_of_decode hdecode path]
  exact ⟨hdecode, validated_eq_ok_iff _, exists_fault_of_not_isValid⟩

/-- A settings file that lowers the limit of the wait alone, with a member that nobody asked for. -/
def lowerWaitText : String :=
  "\x7b\"x\":[null],\"readiness\":\x7b\"maxWaitMs\":10\x7d\x7d"

def lowerWaitMembers : List (String × Value) :=
  [("x", .list [.null]), ("readiness", .record [("maxWaitMs", .natural 10)])]

/-- The example is spelled as JSON allows it. -/
theorem document_lowerWaitText : (Value.record lowerWaitMembers).Document lowerWaitText.toList := by
  have hlist : Json.Spells (.value (.list [.null])) ['[', 'n', 'u', 'l', 'l', ']'] :=
    .list (.element blanks_nil .null blanks_nil)
  have hmaxWait : List.Forall₂ MemberSpelled [("maxWaitMs", .natural 10)]
      [("maxWaitMs", writeNatural 10)] := .cons ⟨rfl, spells_writeNatural 10⟩ .nil
  have hmembers : List.Forall₂ MemberSpelled lowerWaitMembers
      [("x", ['[', 'n', 'u', 'l', 'l', ']']),
        ("readiness", writeObject [("maxWaitMs", writeNatural 10)])] :=
    .cons ⟨rfl, hlist⟩ (.cons ⟨rfl, spells_writeObject hmaxWait⟩ .nil)
  exact ⟨[], _, [], blanks_nil, spells_writeObject hmembers, blanks_nil, by rfl⟩

/-- The default pause is then longer than the wait, so the file is refused. -/
theorem overlay_law_lowerWait :
    decode lowerWaitText = .ok { readiness := { pollInterval := 50, maxWait := 10 } } ∧
      load ⟨"settings.json"⟩ (.ok lowerWaitText.toUTF8) =
        .error (.invalid (.readiness .intervalAboveWait)) := by
  have hbounds : Readiness.Changes.StatedBy { maxWait? := some 10 }
      (.record [("maxWaitMs", .natural 10)]) := .object (.cons ⟨rfl, rfl⟩ .nil) (List.Perm.refl _)
  have hstated : Changes.StatedBy { readiness? := some { maxWait? := some 10 } }
      (.record lowerWaitMembers) := .object (.cons ⟨rfl, hbounds⟩ .nil) (List.Perm.refl _)
  obtain ⟨hdecode, -, hinvalid⟩ := overlay_law hstated document_lowerWaitText ⟨"settings.json"⟩
  obtain ⟨fault, hfault, hload⟩ := hinvalid fun hvalid => absurd hvalid.2.2.2.2.1 (by decide)
  have habove : Settings.validate { readiness := { pollInterval := 50, maxWait := 10 } } =
      .error (.readiness .intervalAboveWait) := by decide
  obtain rfl : .readiness .intervalAboveWait = fault := Except.error.inj (habove.symm.trans hfault)
  exact ⟨hdecode, hload⟩

end Settings

end NbdAttach

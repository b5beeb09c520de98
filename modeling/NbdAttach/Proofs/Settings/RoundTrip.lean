import Mathlib
import NbdAttach.Proofs.Settings.Overlay

/-!
# Settings survive their file

What `Settings.write` writes is a spelling of `Settings.value`, an object of all fields. Such an
object changes every default, so loading any text that spells it gives the settings back, unless
they are not valid (`Settings.load_write`).
-/

namespace NbdAttach

open Json

namespace Readiness

/-- The bounds of a wait as a JSON value. -/
def value (r : Readiness) : Value :=
  .record
    [("pollIntervalMs", .natural r.pollInterval.toNat), ("maxWaitMs", .natural r.maxWait.toNat)]

/-- Every bound is changed. -/
def asChanges (r : Readiness) : Changes where
  pollInterval? := some r.pollInterval
  maxWait? := some r.maxWait

/-- The object of both bounds states a change of each. -/
theorem statedBy_value (r : Readiness) : r.asChanges.StatedBy r.value :=
  .object (.cons ⟨rfl, rfl⟩ (.cons ⟨rfl, rfl⟩ .nil)) (List.Perm.refl _)

/-- The bounds are written as that object. -/
theorem spells_write (r : Readiness) : Json.Spells (.value r.value) r.write :=
  spells_writeObject (.cons ⟨rfl, spells_writeNatural _⟩ (.cons ⟨rfl, spells_writeNatural _⟩ .nil))

end Readiness

namespace Settings

def members (s : Settings) : List (String × Value) :=
  [("serverExecutable", .text s.serverExecutable), ("clientExecutable", .text s.clientExecutable),
   ("pluginName", .text s.pluginName), ("socketDir", .text s.socketDir.text),
   ("paramPrefix", .text s.paramPrefix), ("bucketParam", .text s.bucketParam),
   ("exitFilter", .text s.exitFilter), ("clientBlockSize", .natural s.clientBlockSize.toNat),
   ("readiness", s.readiness.value)]

/-- Settings as a JSON value. -/
def value (s : Settings) : Value :=
  .record s.members

/-- Every field is changed. -/
def asChanges (s : Settings) : Changes where
  serverExecutable? := some s.serverExecutable
  clientExecutable? := some s.clientExecutable
  pluginName? := some s.pluginName
  socketDir? := some s.socketDir
  paramPrefix? := some s.paramPrefix
  bucketParam? := some s.bucketParam
  exitFilter? := some s.exitFilter
  clientBlockSize? := some s.clientBlockSize
  readiness? := some s.readiness.asChanges

/-- Nothing of the settings before is left. -/
theorem apply_asChanges (s old : Settings) : s.asChanges.apply old = s :=
  rfl

/-- The object of all fields states a change of each, and that of the bounds inside. -/
theorem statedBy_value (s : Settings) : s.asChanges.StatedBy s.value := by
  have hreadiness := s.readiness.statedBy_value
  -- member by member: each value is the one of its field
  have hmembers : List.Forall₂ MemberStates s.members s.asChanges.slots.reduceOption :=
    .cons ⟨rfl, rfl⟩ (.cons ⟨rfl, rfl⟩ (.cons ⟨rfl, rfl⟩ (.cons ⟨rfl, rfl⟩ (.cons ⟨rfl, rfl⟩
      (.cons ⟨rfl, rfl⟩ (.cons ⟨rfl, rfl⟩ (.cons ⟨rfl, rfl⟩ (.cons ⟨rfl, hreadiness⟩ .nil))))))))
  exact .object hmembers (List.Perm.refl _)

/-- Settings are written as that object, member by member in the order of the fields. -/
theorem spells_write (s : Settings) : Json.Spells (.value s.value) s.write.toList := by
  have hreadiness := s.readiness.spells_write
  unfold write value
  rw [String.toList_ofList]
  refine spells_writeObject (.cons ⟨rfl, ?_⟩ (.cons ⟨rfl, ?_⟩ (.cons ⟨rfl, ?_⟩ (.cons ⟨rfl, ?_⟩
    (.cons ⟨rfl, ?_⟩ (.cons ⟨rfl, ?_⟩ (.cons ⟨rfl, ?_⟩ (.cons ⟨rfl, spells_writeNatural _⟩
    (.cons ⟨rfl, hreadiness⟩ .nil)))))))))
  -- what is left are the seven texts
  all_goals exact spells_writeText _

theorem document_write (s : Settings) : s.value.Document s.write.toList :=
  ⟨[], _, [], blanks_nil, s.spells_write, blanks_nil, by rw [List.nil_append, List.append_nil]⟩

/-- Any text that spells settings is decoded as these settings. -/
theorem decode_of_document {s : Settings} {text : String} (htext : s.value.Document text.toList) :
    decode text = .ok s := by
  have hdecode := decode_of_stated s.statedBy_value htext
  rwa [apply_asChanges] at hdecode

/-- Settings survive their file: what is written for them, and any other spelling of the same value,
is loaded as these settings when they are valid, and fails with their own fault when they are
not. -/
theorem load_write (s : Settings) (path : Path) :
    load path (.ok s.write.toUTF8) = s.validated ∧
      ∀ text : String, s.value.Document text.toList →
        load path (.ok text.toUTF8) = s.validated := by
  have hload : ∀ text : String, s.value.Document text.toList →
      load path (.ok text.toUTF8) = s.validated :=
    fun text htext => load_of_decode (decode_of_document htext) path
  exact ⟨hload s.write s.document_write, hload⟩

end Settings

end NbdAttach

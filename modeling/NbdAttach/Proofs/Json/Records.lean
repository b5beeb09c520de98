import Mathlib
import NbdAttach.Json.Record
import NbdAttach.Proofs.Json.Skipping

/-!
# Records

A record is read on top of its defaults: a `Change` replaces one field, a value `States` some
changes, and reading any spelling of that value makes exactly those changes
(`readRecord_of_states`). An object states them in any order with any other members between, and a
list in the order of the fields.

Two things about a record make the order of the members irrelevant: each member is read by the field
of its own name (`ReadBy`), and changes of different fields commute. Members are read in the order in
which they stand, so the result is first the changes in that order, and then in any.
-/

namespace NbdAttach.Json

/-! ### Changes -/

/-- A new value for one field of a record. -/
structure Change (α : Type) where
  name : String
  /-- Which values state it. -/
  statedBy : Value → Prop
  put : α → α

namespace Change

variable {α : Type}

/-- A record after some changes. -/
def all (changes : List (Change α)) (record : α) : α :=
  changes.foldl (fun r change => change.put r) record

def Commute (x y : Change α) : Prop :=
  ∀ r, y.put (x.put r) = x.put (y.put r)

instance : Std.Symm (@Commute α) :=
  ⟨fun _ _ h r => (h r).symm⟩

/-- Changes that commute make the same of a record in any order. -/
theorem all_perm {xs ys : List (Change α)} (hperm : xs.Perm ys)
    (hcommute : ∀ x ∈ xs, ∀ y ∈ xs, Commute x y) (record : α) : all xs record = all ys record :=
  hperm.foldl_eq' (fun x hx y hy r => hcommute x hx y hy r) record

end Change

/-- A member of an object and the change that it states. -/
def MemberStates {α : Type} (member : String × Value) (change : Change α) : Prop :=
  member.1 = change.name ∧ change.statedBy member.2

/-- The members that have the name of a field. -/
def known (names : List String) (members : List (String × Value)) : List (String × Value) :=
  members.filter fun m => names.contains m.1

/-- The values that state some changes of a record with fields of the given names. The names of an
object's own members are texts: a name with half of a surrogate pair in it is refused by the
decoder, whereas in a value that nobody asks for such halves are skipped. -/
inductive Value.States {α : Type} (names : List String) (changes : List (Change α)) : Value → Prop
  /-- An object has one member for each change, in any order, and no others of a known name. -/
  | object {members stated : List (String × Value)}
      (hstated : List.Forall₂ MemberStates stated changes)
      (hknown : (known names members).Perm stated) : Value.States names changes (.record members)
  /-- A list has the values of the first fields. -/
  | list {values : List Value}
      (hstated : List.Forall₂ (fun v change => change.statedBy v) values changes)
      (horder : changes.map Change.name <+: names) : Value.States names changes (.list values)

/-- The changes that an object states have names of fields. -/
theorem name_mem_of_states {α : Type} {names : List String} {members : List (String × Value)}
    {changes : List (Change α)}
    (hstated : List.Forall₂ MemberStates (known names members) changes) :
    ∀ change ∈ changes, change.name ∈ names := by
  intro change hchange
  obtain ⟨i, hi, rfl⟩ := List.getElem_of_mem hchange
  have hlength := hstated.length_eq
  have hpair := hstated.get (by omega) hi
  have hmem : (known names members)[i] ∈ known names members := List.getElem_mem _
  have hname := (List.mem_filter.mp hmem).2
  rw [← show (known names members)[i].1 = changes[i].name from hpair.1]
  simpa using hname

/-! ### Fields -/

/-- The field reads every spelling of the values that state the change. -/
def FieldReader.Takes {α : Type} (field : FieldReader α) (change : Change α) : Prop :=
  ∀ (v : Value) (record : α) (before text rest : List Char), change.statedBy v → Blanks before →
    Spells (.value v) text → EndsNumeral rest →
      field.read record (before ++ (text ++ rest)) = .ok (change.put record, rest)

/-- Every change is read by the field of its name. -/
def ReadBy {α : Type} (fields : List (FieldReader α)) (changes : List (Change α)) : Prop :=
  ∀ change ∈ changes, ∀ field ∈ fields, field.name = change.name → field.Takes change

variable {α : Type} {fields : List (FieldReader α)}

/-- A known name has a field, and the first of that name is found. -/
theorem find?_of_name {name : String} (hname : name ∈ fields.map FieldReader.name) :
    ∃ field ∈ fields, field.name = name ∧ fields.find? (·.name == name) = some field := by
  obtain ⟨field, hmem, hfield⟩ := List.mem_map.mp hname
  have hsome : (fields.find? (·.name == name)).isSome := by
    rw [List.find?_isSome]
    exact ⟨field, hmem, by simp [hfield]⟩
  obtain ⟨found, hfound⟩ := Option.isSome_iff_exists.mp hsome
  have hfoundName := List.find?_some hfound
  exact ⟨found, List.mem_of_find?_eq_some hfound, by simpa using hfoundName, hfound⟩

/-- For any other name none is found. -/
theorem find?_of_not_name {name : String} (hname : name ∉ fields.map FieldReader.name) :
    fields.find? (·.name == name) = none := by
  rw [List.find?_eq_none]
  intro field hfield heq
  exact hname (List.mem_map.mpr ⟨field, hfield, by simpa using heq⟩)

/-! ### Members -/

/-- What follows the first value of an enclosure: nothing more, or a comma and the others. -/
def Tail (last : Prop) (others : Part) (tail : List Char) : Prop :=
  (last ∧ tail = []) ∨ ∃ more, tail = ',' :: more ∧ Spells others more

/-- No numeral goes on behind a value of an enclosure. -/
theorem Tail.endsNumeral {last : Prop} {others : Part} {tail : List Char}
    (htail : Tail last others tail) (e : Enclosure) {after : List Char} (hafter : Blanks after)
    (rest : List Char) : EndsNumeral (after ++ (tail ++ e.last :: rest)) := by
  refine endsNumeral_of_blanks hafter ?_
  rcases htail with ⟨-, rfl⟩ | ⟨more, rfl, -⟩
  · exact endsNumeral_cons e.last_cases rest
  · exact endsNumeral_cons (.inl rfl) _

/-- The colon is found behind any blanks. -/
theorem skipColon_of_blanks {beforeColon : List Char} (hbeforeColon : Blanks beforeColon)
    (rest : List Char) : skipColon (beforeColon ++ ':' :: rest) = .ok rest := by
  unfold skipColon
  rw [skipBlanks_to hbeforeColon (by decide)]
  rfl

section Member

variable {v : Value} {beforeColon afterColon text rest : List Char}

/-- A member of a known name makes its change. -/
theorem readMember_known {change : Change α}
    (hread : ∀ field ∈ fields, field.name = change.name → field.Takes change)
    (hname : change.name ∈ fields.map FieldReader.name) (hstates : change.statedBy v)
    {seen : List String} (hseen : change.name ∉ seen) (hbeforeColon : Blanks beforeColon)
    (hafterColon : Blanks afterColon) (htext : Spells (.value v) text) (hrest : EndsNumeral rest)
    (record : α) :
    readMember fields seen change.name record
        (beforeColon ++ ':' :: (afterColon ++ (text ++ rest))) =
      .ok (change.put record, rest) := by
  obtain ⟨field, hmem, hfield, hfind⟩ := find?_of_name hname
  have htakes : field.Takes change := hread field hmem hfield
  have hnew : seen.contains change.name = false := by simpa using hseen
  unfold readMember
  rw [hfind]
  simp only [hnew, Bool.false_eq_true, if_false, skipColon_of_blanks hbeforeColon]
  exact htakes v record afterColon text rest hstates hafterColon htext hrest

/-- A member of any other name makes no change. -/
theorem readMember_unknown {name : String} (hname : name ∉ fields.map FieldReader.name)
    (hbeforeColon : Blanks beforeColon) (hafterColon : Blanks afterColon)
    (htext : Spells (.value v) text) (hrest : EndsNumeral rest) (seen : List String) (record : α) :
    readMember fields seen name record (beforeColon ++ ':' :: (afterColon ++ (text ++ rest))) =
      .ok (record, rest) := by
  unfold readMember
  rw [find?_of_not_name hname]
  simp only [skipColon_of_blanks hbeforeColon, skipValue_of_spells htext hafterColon hrest]

/-- What holds on the way through an object: the members that are left state the changes that are
left, and none of these changes a field that was seen. -/
structure Pending (fields : List (FieldReader α)) (seen : List String)
    (members : List (String × Value)) (changes : List (Change α)) : Prop where
  stated : List.Forall₂ MemberStates (known (fields.map FieldReader.name) members) changes
  read : ReadBy fields changes
  distinct : (changes.map Change.name).Nodup
  fresh : ∀ change ∈ changes, change.name ∉ seen

/-- One member is read. If its name is known, the first of the changes that are left is made, and
otherwise none is. -/
theorem Pending.readMember {seen : List String} {name : String} {members : List (String × Value)}
    {changes : List (Change α)} (hpending : Pending fields seen ((name, v) :: members) changes)
    (hbeforeColon : Blanks beforeColon) (hafterColon : Blanks afterColon)
    (htext : Spells (.value v) text) (hrest : EndsNumeral rest) (record : α) :
    ∃ changes' record',
      Json.readMember fields seen name record
          (beforeColon ++ ':' :: (afterColon ++ (text ++ rest))) = .ok (record', rest) ∧
        Pending fields (name :: seen) members changes' ∧
        Change.all changes' record' = Change.all changes record := by
  obtain ⟨hstated, hread, hdistinct, hfresh⟩ := hpending
  by_cases hname : name ∈ fields.map FieldReader.name
  · have hcons : known (fields.map FieldReader.name) ((name, v) :: members) =
        (name, v) :: known (fields.map FieldReader.name) members :=
      List.filter_cons_of_pos (by simpa using hname)
    rw [hcons] at hstated
    cases hstated with
    | @cons _ change _ changes hchange hstated =>
      -- the member states the first of the changes that are left
      obtain ⟨rfl, hv⟩ : name = change.name ∧ change.statedBy v := hchange
      obtain ⟨hnew, hdistinct⟩ := List.nodup_cons.mp hdistinct
      have hmember := readMember_known (hread change List.mem_cons_self) hname hv
        (hfresh change List.mem_cons_self) hbeforeColon hafterColon htext hrest record
      refine ⟨changes, change.put record, hmember, ⟨hstated, ?_, hdistinct, ?_⟩, rfl⟩
      · exact fun c hc => hread c (List.mem_cons_of_mem change hc)
      · intro c hc hmem
        rcases List.mem_cons.mp hmem with hsame | hold
        · exact hnew (hsame ▸ List.mem_map_of_mem hc)
        · exact hfresh c (List.mem_cons_of_mem change hc) hold
  · have hcons : known (fields.map FieldReader.name) ((name, v) :: members) =
        known (fields.map FieldReader.name) members :=
      List.filter_cons_of_neg (by simpa using hname)
    rw [hcons] at hstated
    -- the name is seen from now on, but no change that is left has an unknown name
    have hmember := readMember_unknown hname hbeforeColon hafterColon htext hrest seen record
    refine ⟨changes, record, hmember, ⟨hstated, hread, hdistinct, ?_⟩, rfl⟩
    intro c hc hmem
    rcases List.mem_cons.mp hmem with hsame | hold
    · exact hname (hsame ▸ name_mem_of_states hstated c hc)
    · exact hfresh c hc hold

end Member

/-! ### Objects -/

/-- The first member begins with a quote. -/
theorem nextMember_name {text more : List Char} (htext : skipBlanks text = '"' :: more) :
    nextMember true text = .ok (.key more) := by
  unfold nextMember
  rw [htext]
  rfl

/-- The brace ends an object, at its beginning as well as behind a member. -/
theorem nextMember_end {first : Bool} {before : List Char} (hbefore : Blanks before)
    (rest : List Char) : nextMember first (before ++ '\x7d' :: rest) = .ok (.done rest) := by
  unfold nextMember
  rw [skipBlanks_to hbefore (by decide)]
  rfl

/-- Behind a comma, the next member is found as the first one is. -/
theorem nextMember_comma {after text more : List Char} (hafter : Blanks after)
    (htext : skipBlanks text = '"' :: more) :
    nextMember false (after ++ ',' :: text) = .ok (.key more) := by
  unfold nextMember
  rw [skipBlanks_to hafter (by decide)]
  simp [htext]

/-- The first member of an object, and what follows it up to the end of the object. -/
theorem Spells.first_member {us : List Nat} {v : Value} {ms : List (List Nat × Value)}
    {text : List Char} (htext : Spells (.members ((us, v) :: ms)) text) :
    ∃ before name beforeColon afterColon value after tail,
      text = before ++ '"' :: (name ++ '"' :: (beforeColon ++ ':' ::
        (afterColon ++ (value ++ (after ++ tail))))) ∧
      Blanks before ∧ SpellsUnits us name ∧ Blanks beforeColon ∧ Blanks afterColon ∧
      Spells (.value v) value ∧ Blanks after ∧ Tail (ms = []) (.members ms) tail := by
  cases htext with
  | member hbefore hname hbeforeColon hafterColon hvalue hafter =>
    refine ⟨_, _, _, _, _, _, [], ?_, hbefore, hname, hbeforeColon, hafterColon, hvalue, hafter,
      .inl ⟨rfl, rfl⟩⟩
    rw [List.append_nil]
  | members hbefore hname hbeforeColon hafterColon hvalue hafter hrest =>
    exact ⟨_, _, _, _, _, _, _, rfl, hbefore, hname, hbeforeColon, hafterColon, hvalue, hafter,
      .inr ⟨_, rfl, hrest⟩⟩

/-- One member. -/
theorem readMembers_step {first : Bool} {seen : List String} {record record' : α} {name : String}
    {position body following rest : List Char}
    (hnext : nextMember first position = .ok (.key (body ++ '"' :: following)))
    (hname : SpellsUnits (textUnits name.toList) body)
    (hmember : readMember fields seen name record following = .ok (record', rest)) (steps : Nat) :
    readMembers fields first seen record position (steps + 1) =
      readMembers fields false (name :: seen) record' rest steps := by
  rw [readMembers, hnext]
  simp only [readString_of_spells hname, hmember]

/-- The members that are left are read, wherever the reader is on its way to the first of them. -/
theorem readMembers_of_spells {members : List (String × Value)} {changes : List (Change α)}
    {text : List Char} (htext : Spells (.members (members.map Value.textMember)) text)
    {seen : List String} (hpending : Pending fields seen members changes) {first : Bool}
    {position more rest : List Char} (hnext : nextMember first position = .ok (.key more))
    (hmore : skipBlanks (text ++ '\x7d' :: rest) = '"' :: more) {steps : Nat}
    (hsteps : members.length < steps) (record : α) :
    readMembers fields first seen record position steps =
      .ok (Change.all changes record, rest) := by
  induction members generalizing text changes seen first position more steps record with
  | nil => cases htext
  | cons m ms ih =>
    obtain ⟨name, v⟩ := m
    obtain ⟨before, body, beforeColon, afterColon, value, after, tail, rfl, hbefore, hname,
      hbeforeColon, hafterColon, hvalue, hafter, htail⟩ :=
      Spells.first_member (show Spells (.members ((textUnits name.toList, v) :: _)) text from htext)
    obtain ⟨steps, rfl⟩ : ∃ n, steps = n + 1 := ⟨steps - 1, by omega⟩
    simp only [List.append_assoc, List.cons_append] at hmore
    rw [skipBlanks_to hbefore (by decide)] at hmore
    obtain rfl := (List.cons.inj hmore).2
    -- the value is followed by a comma or by the brace, so it ends where its spelling ends
    have hends : EndsNumeral (after ++ (tail ++ '\x7d' :: rest)) :=
      htail.endsNumeral .object hafter rest
    obtain ⟨changes', record', hmember, hpending', hsame⟩ :=
      hpending.readMember hbeforeColon hafterColon hvalue hends record
    rw [readMembers_step hnext hname hmember, ← hsame]
    simp only [List.length_cons] at hsteps
    rcases htail with ⟨hms, rfl⟩ | ⟨more, rfl, hmembers⟩
    · -- that was the last member, so no change is left
      obtain rfl : ms = [] := List.map_eq_nil_iff.mp hms
      obtain rfl : changes' = [] := List.forall₂_nil_left_iff.mp hpending'.stated
      obtain ⟨steps, rfl⟩ : ∃ n, steps = n + 1 := ⟨steps - 1, by omega⟩
      rw [readMembers, List.nil_append, nextMember_end hafter]
      rfl
    · obtain ⟨key, hkey⟩ := hmembers.members_begin ('\x7d' :: rest)
      exact ih hmembers hpending' (nextMember_comma hafter hkey) hkey (by omega) record'

/-- Each member of an object has at least one character. -/
theorem Spells.length_members_le {ms : List (List Nat × Value)} {text : List Char}
    (htext : Spells (.members ms) text) : ms.length ≤ text.length := by
  induction ms generalizing text with
  | nil => exact Nat.zero_le _
  | cons m ms ih =>
    cases htext with
    | member =>
      simp only [List.length_append, List.length_cons, List.length_nil]
      omega
    | members _ _ _ _ _ _ hrest =>
      have hlength := ih hrest
      simp only [List.length_append, List.length_cons] at hlength ⊢
      omega

/-! ### Lists -/

/-- The first element begins at once. -/
theorem nextElement_first {text more : List Char} {c : Char} (htext : skipBlanks text = c :: more)
    (hc : BeginsValue c) : nextElement true text = .ok (some (c :: more)) := by
  have hend := hc.ne_end.1
  unfold nextElement
  rw [htext]
  simp

/-- Behind a comma, the next element is found as the first one is. -/
theorem nextElement_comma {after text more : List Char} {c : Char} (hafter : Blanks after)
    (htext : skipBlanks text = c :: more) (hc : BeginsValue c) :
    nextElement false (after ++ ',' :: text) = .ok (some (c :: more)) := by
  have hend := hc.ne_end.1
  unfold nextElement
  rw [skipBlanks_to hafter (by decide)]
  simp [htext, hend]

/-- The bracket ends a list, at its beginning as well as behind an element. -/
theorem nextElement_end {first : Bool} {after : List Char} (hafter : Blanks after)
    (rest : List Char) : nextElement first (after ++ ']' :: rest) = .ok none := by
  unfold nextElement
  rw [skipBlanks_to hafter (by decide)]
  rfl

/-- The end of a list is found behind any blanks. -/
theorem endList_of_blanks {after : List Char} (hafter : Blanks after) (rest : List Char) :
    endList (after ++ ']' :: rest) = .ok rest := by
  unfold endList
  rw [skipBlanks_to hafter (by decide)]
  rfl

/-- Behind the last element there is nothing for the fields that are left. -/
theorem readElements_end {first : Bool} {after : List Char} (hafter : Blanks after)
    (rest : List Char) (record : α) (fields : List (FieldReader α)) :
    readElements first record (after ++ ']' :: rest) fields =
      .ok (record, after ++ ']' :: rest) := by
  cases fields with
  | nil => rfl
  | cons field fields =>
    rw [readElements, nextElement_end hafter]

/-- The first element of a list, and what follows it up to the end of the list. -/
theorem Spells.first_element {v : Value} {vs : List Value} {text : List Char}
    (htext : Spells (.elements (v :: vs)) text) :
    ∃ before value after tail, text = before ++ (value ++ (after ++ tail)) ∧ Blanks before ∧
      Spells (.value v) value ∧ Blanks after ∧ Tail (vs = []) (.elements vs) tail := by
  cases htext with
  | element hbefore hvalue hafter =>
    refine ⟨_, _, _, [], ?_, hbefore, hvalue, hafter, .inl ⟨rfl, rfl⟩⟩
    rw [List.append_nil]
  | elements hbefore hvalue hafter hrest =>
    exact ⟨_, _, _, _, rfl, hbefore, hvalue, hafter, .inr ⟨_, rfl, hrest⟩⟩

/-- The elements that are left are read by the fields that are left, wherever the reader is on its
way to the first of them. -/
theorem readElements_of_spells {values : List Value} {changes : List (Change α)} {text : List Char}
    (htext : Spells (.elements values) text)
    (hstated : List.Forall₂ (fun v change => change.statedBy v) values changes)
    (horder : changes.map Change.name <+: fields.map FieldReader.name)
    (hread : ReadBy fields changes) {first : Bool} {position more rest : List Char}
    (hnext : nextElement first position = .ok (some more))
    (hmore : skipBlanks (text ++ ']' :: rest) = more) (record : α) :
    ∃ after, Blanks after ∧ readElements first record position fields =
      .ok (Change.all changes record, after ++ ']' :: rest) := by
  induction values generalizing text changes fields first position more record with
  | nil => cases htext
  | cons v vs ih =>
    obtain ⟨before, value, after, tail, rfl, hbefore, hvalue, hafter, htail⟩ := htext.first_element
    obtain _ | @⟨_, change, _, changes, hv, hstated⟩ := hstated
    obtain _ | ⟨field, fields⟩ := fields
    · exact absurd (List.prefix_nil.mp horder) (List.cons_ne_nil _ _)
    -- the first field that is left is the one that the element is for
    obtain ⟨hname, horder⟩ := List.cons_prefix_cons.mp horder
    have htakes : field.Takes change :=
      hread change List.mem_cons_self field List.mem_cons_self hname.symm
    have hread' : ReadBy fields changes := fun c hc f hf =>
      hread c (List.mem_cons_of_mem change hc) f (List.mem_cons_of_mem field hf)
    -- the element is read without the blanks in front of it
    simp only [List.append_assoc] at hmore
    rw [skipBlanks_append hbefore, hvalue.skipBlanks_value] at hmore
    have hends : EndsNumeral (after ++ (tail ++ ']' :: rest)) :=
      htail.endsNumeral .list hafter rest
    have hvalueRead := htakes v record [] value _ hv blanks_nil hvalue hends
    rw [List.nil_append, hmore] at hvalueRead
    rw [readElements, hnext]
    simp only [hvalueRead]
    rcases htail with ⟨rfl, rfl⟩ | ⟨more, rfl, helements⟩
    · cases hstated
      exact ⟨after, hafter, readElements_end hafter rest _ fields⟩
    · obtain ⟨d, key, hkey, hd⟩ := helements.elements_begin (']' :: rest)
      exact ih helements hstated horder hread' (nextElement_comma hafter hkey hd) hkey
        (change.put record)

/-! ### Records -/

/-- A spelling of a value that states some changes is read as the defaults with these changes. -/
theorem readRecord_of_states {expected : String} {changes : List (Change α)} {v : Value}
    (hstates : v.States (fields.map FieldReader.name) changes) (hread : ReadBy fields changes)
    (hdistinct : (changes.map Change.name).Nodup)
    (hcommute : ∀ x ∈ changes, ∀ y ∈ changes, x.Commute y) {before text : List Char}
    (hbefore : Blanks before) (htext : Spells (.value v) text) (rest : List Char) (default : α) :
    readRecord expected fields default (before ++ (text ++ rest)) =
      .ok (Change.all changes default, rest) := by
  unfold readRecord
  rw [skipBlanks_append hbefore]
  cases hstates with
  | @object members stated hstated hknown =>
    -- the changes in the order of the members
    obtain ⟨ordered, hordered, hperm⟩ := List.perm_comp_forall₂ hknown hstated
    have hmem : ∀ change ∈ ordered, change ∈ changes := fun c hc => hperm.mem_iff.mp hc
    have hsame : Change.all ordered default = Change.all changes default :=
      Change.all_perm hperm (fun x hx y hy => hcommute x (hmem x hx) y (hmem y hy)) default
    have hread' : ReadBy fields ordered := fun c hc => hread c (hmem c hc)
    have hdistinct' : (ordered.map Change.name).Nodup :=
      (hperm.map Change.name).nodup_iff.mpr hdistinct
    rw [← hsame]
    unfold Value.record at htext
    generalize hms : members.map Value.textMember = ms at htext
    cases htext with
    | @emptyObject blanks hblanks =>
      obtain rfl : members = [] := List.map_eq_nil_iff.mp hms
      cases hordered
      have htext : '\x7b' :: (blanks ++ ['\x7d']) ++ rest =
          '\x7b' :: (blanks ++ '\x7d' :: rest) := by
        simp
      rw [htext, skipBlanks_cons (by decide)]
      simp only [readMembers, nextMember_end hblanks]
      rfl
    | @object _ body hmembers =>
      obtain ⟨key, hkey⟩ := hmembers.members_begin ('\x7d' :: rest)
      have htext : '\x7b' :: (body ++ ['\x7d']) ++ rest = '\x7b' :: (body ++ '\x7d' :: rest) := by
        simp
      -- the reader has a step for each character, and a member has one at least
      have hsteps : members.length < (body ++ '\x7d' :: rest).length + 1 := by
        have hlength := hmembers.length_members_le
        rw [← hms, List.length_map] at hlength
        rw [List.length_append]
        omega
      rw [htext, skipBlanks_cons (by decide)]
      exact readMembers_of_spells (hms ▸ hmembers)
        ⟨hordered, hread', hdistinct', fun _ _ => List.not_mem_nil⟩ (nextMember_name hkey) hkey
        hsteps default
  | @list values hstated horder =>
    cases htext with
    | @emptyList blanks hblanks =>
      cases hstated
      have htext : '[' :: (blanks ++ [']']) ++ rest = '[' :: (blanks ++ ']' :: rest) := by simp
      rw [htext, skipBlanks_cons (by decide)]
      simp only [readElements_end hblanks, endList_of_blanks hblanks]
      rfl
    | @list _ body helements =>
      obtain ⟨c, more, hmore, hc⟩ := helements.elements_begin (']' :: rest)
      obtain ⟨after, hafter, hread⟩ := readElements_of_spells helements hstated horder hread
        (nextElement_first hmore hc) hmore default
      have htext : '[' :: (body ++ [']']) ++ rest = '[' :: (body ++ ']' :: rest) := by simp
      rw [htext, skipBlanks_cons (by decide)]
      simp only [hread, endList_of_blanks hafter]

/-- The texts that hold one value and nothing else but blanks. -/
def Value.Document (v : Value) (text : List Char) : Prop :=
  ∃ before body after, Blanks before ∧ Spells (.value v) body ∧ Blanks after ∧
    text = before ++ (body ++ after)

/-- A text that holds such a value and nothing else is decoded so. -/
theorem decodeRecord_of_states {expected : String} {changes : List (Change α)} {v : Value}
    (hstates : v.States (fields.map FieldReader.name) changes) (hread : ReadBy fields changes)
    (hdistinct : (changes.map Change.name).Nodup)
    (hcommute : ∀ x ∈ changes, ∀ y ∈ changes, x.Commute y) {text : List Char}
    (htext : v.Document text) (default : α) :
    decodeRecord expected fields default text = .ok (Change.all changes default) := by
  obtain ⟨before, body, after, hbefore, hbody, hafter, rfl⟩ := htext
  have hend : skipBlanks after = [] := by
    have happend := skipBlanks_append hafter []
    rwa [List.append_nil] at happend
  unfold decodeRecord
  rw [readRecord_of_states hstates hread hdistinct hcommute hbefore hbody]
  simp only [hend]

/-! ### Scalars -/

/-- Every spelling of a text is read as that text. -/
theorem readText_of_spells {expected s : String} {before text : List Char} (hbefore : Blanks before)
    (htext : Spells (.value (.text s)) text) (rest : List Char) :
    readText expected (before ++ (text ++ rest)) = .ok (s, rest) := by
  unfold Value.text at htext
  cases htext with
  | @string _ body hbody =>
    have happend : '"' :: (body ++ ['"']) ++ rest = '"' :: (body ++ '"' :: rest) := by simp
    unfold readText
    rw [happend, skipBlanks_to hbefore (by decide)]
    exact readString_of_spells hbody rest

/-- The numeral of a number in range is read as that number. -/
theorem readNatural_of_spells {expected : String} {n max : Nat} (hn : n ≤ max)
    (hmax : max ≤ maxWord) {before text rest : List Char} (hbefore : Blanks before)
    (htext : Spells (.value (.natural n)) text) (hrest : EndsNumeral rest) :
    readNatural expected max (before ++ (text ++ rest)) = .ok (n, rest) := by
  unfold Value.natural at htext
  cases htext with
  | number =>
    have hread := readNumber_toDigits (hn.trans hmax) hrest
    obtain ⟨c, digits, hdigits, hc⟩ := (digits_toDigits n).exists_cons
    have hminus : c ≠ '-' := isDigit_ne hc (by decide)
    have hblank : isBlank c = false := BeginsValue.isBlank (.inr hc)
    rw [hdigits] at hread ⊢
    unfold readNatural
    dsimp only
    rw [List.cons_append, skipBlanks_to hbefore hblank]
    rw [List.cons_append] at hread
    split
    · next h => exact absurd (List.cons.inj h).1 hminus
    · next h =>
      obtain ⟨rfl, rfl⟩ := List.cons.inj h
      rw [if_pos hc, hread]
      exact if_pos hn
    · next h => cases h

end NbdAttach.Json

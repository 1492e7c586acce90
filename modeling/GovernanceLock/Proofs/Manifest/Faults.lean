import GovernanceLock.Proofs.Manifest.Validity
import GovernanceLock.Proofs.Order.First
import Mathlib.Tactic.MkIffOfInductiveProp

/-!
This module contains what is reported about a record that has no manifest: the first condition, in
the order of the checks, that the record violates.
-/

namespace GovernanceLock.Manifest

open Except (bind_eq_error_iff map_eq_error_iff mapError_eq_error_iff)
open Json (Record)

inductive TextFault (v : Json) : Fault → Prop where
  | missing : v = .null → TextFault v .missing
  | empty {s : String} : v = .string s → Text.trimmed s = "" → TextFault v .empty
  | wrongType : v ≠ .null → (∀ s, v ≠ .string s) → TextFault v (.wrongType .text)

inductive VersionFault (v : Json) : Fault → Prop where
  | text {fault : Fault} : TextFault v fault → VersionFault v fault
  | invalid {s : String} {cause : Version.Error} : v = .string s → Text.trimmed s ≠ "" →
      Version.parse s = .error cause → VersionFault v (.invalidVersion cause)

inductive ObjectFault (v : Json) : Fault → Prop where
  | missing : v = .null → ObjectFault v .missing
  | wrongType : v ≠ .null → (∀ members, v ≠ .object members) → ObjectFault v (.wrongType .object)

@[mk_iff]
inductive ItemFault (v : Json) : Fault → Prop where
  | empty {s : String} : v = .string s → Text.trimmed s = "" → ItemFault v .empty
  | wrongType : (∀ s, v ≠ .string s) → ItemFault v (.wrongType .textList)

/--
Something is wrong with `x`, namely `fault`, and nothing is wrong with what stands before it.
-/
def FirstFault (Faulty : α → Fault → Prop) (l : List α) (x : α) (fault : Fault) : Prop :=
  IsFirst (fun y => ∃ f, Faulty y f) l x ∧ Faulty x fault

inductive ListFault (v : Json) : Fault → Prop where
  | item {items : List Json} {item : Json} {fault : Fault} : v = .array items →
      FirstFault ItemFault items item fault → ListFault v fault
  | wrongType : v ≠ .null → (∀ items, v ≠ .array items) → ListFault v (.wrongType .textList)

/--
A condition on a record: the field that is named where it is violated, and what is wrong then.
-/
structure Condition where
  field : String
  Violated : Record → Fault → Prop

namespace Condition

def text (name : String) : Condition where
  field := name
  Violated r fault := TextFault (r.field name) fault

def version (name : String) : Condition where
  field := name
  Violated r fault := VersionFault (r.field name) fault

def object (name : String) : Condition where
  field := name
  Violated r fault := ObjectFault (r.field name) fault

def innerVersion (path outer name : String) : Condition where
  field := path
  Violated r fault :=
    ∃ inner : Record, r.field outer = .object inner ∧ VersionFault (inner.field name) fault

def list (name : String) : Condition where
  field := name
  Violated r fault := ListFault (r.field name) fault

def others (name : String) : Condition where
  field := name
  Violated r fault :=
    fault = .selfReference ∧ ∃ id, IsText (r.field "id") id ∧ IsEntry (r.field name) id

def safePaths (name : String) : Condition where
  field := name
  Violated r fault :=
    ∃ path, fault = .unsafePath path ∧
      Least (fun t => IsEntry (r.field name) t ∧ ArtifactPath.isSafe t = false) path

end Condition

/--
The conditions on the record of a manifest, in the order in which they are checked.
-/
def conditions : List Condition :=
  [.text "id", .version "version", .object "compat",
    .innerVersion "compat.engine_min" "compat" "engine_min",
    .innerVersion "compat.engine_max" "compat" "engine_max",
    .list "requires", .list "conflicts_with", .others "requires", .others "conflicts_with",
    .list "artifacts", .safePaths "artifacts", .list "owns_surfaces", .list "touches_surfaces"]

/--
The field and the fault of the first condition that the record violates.
-/
def Reported (r : Record) (cs : List Condition) (field : String) (fault : Fault) : Prop :=
  ∃ c, FirstFault (·.Violated r) cs c fault ∧ c.field = field

def IsNamed (r : Record) (pack : String) : Prop :=
  IsText (r.field "id") pack ∨ (∀ id, ¬ IsText (r.field "id") id) ∧ pack = unknownPack

theorem FirstFault.cons_iff {Faulty : α → Fault → Prop} {l : List α} {a x : α} {fault : Fault} :
    FirstFault Faulty (a :: l) x fault ↔
      Faulty a fault ∧ x = a ∨ (∀ f, ¬ Faulty a f) ∧ FirstFault Faulty l x fault :=
  FirstWith.cons_iff

theorem FirstFault.exists_of_mem (Faulty : α → Fault → Prop) {l : List α} {x : α} {fault : Fault}
    (hx : x ∈ l) (h : Faulty x fault) : ∃ y f, FirstFault Faulty l y f := by
  induction l with
  | nil => cases hx
  | cons a l ih =>
    simp only [FirstFault.cons_iff]
    by_cases ha : ∃ f, Faulty a f
    · rcases ha with ⟨f, ha⟩
      exact ⟨a, f, .inl ⟨ha, rfl⟩⟩
    · rw [not_exists] at ha
      rcases List.mem_cons.1 hx with rfl | hx
      · exact absurd h (ha fault)
      · rcases ih hx with ⟨y, f, hy⟩
        exact ⟨y, f, .inr ⟨ha, hy⟩⟩

theorem not_firstFault_nil {Faulty : α → Fault → Prop} {x : α} {fault : Fault} :
    ¬ FirstFault Faulty [] x fault :=
  FirstWith.not_nil

section

variable {v : Json} {fault : Fault}

theorem nonBlank_eq_error_iff : nonBlank v = .error fault ↔ TextFault v fault := by
  constructor
  · intro h
    unfold nonBlank at h
    split at h
    · cases h
      exact .missing rfl
    · next s =>
      split at h
      · next hblank =>
        cases h
        exact .empty rfl (Text.trimmed_eq_empty_iff.2 (List.isEmpty_iff.1 hblank))
      · cases h
    · next hnull hstring =>
      cases h
      exact .wrongType hnull hstring
  · intro h
    cases h with
    | missing hv =>
      rw [hv]
      rfl
    | empty hv hblank =>
      rw [hv, nonBlank, if_pos (List.isEmpty_iff.2 (Text.trimmed_eq_empty_iff.1 hblank))]
    | wrongType hnull hstring =>
      cases v with
      | null => exact absurd rfl hnull
      | string s => exact absurd rfl (hstring s)
      | _ => rfl

theorem versionText_eq_error_iff : versionText v = .error fault ↔ VersionFault v fault := by
  simp only [versionText, bind_eq_error_iff, mapError_eq_error_iff, nonBlank_eq_ok_iff,
    nonBlank_eq_error_iff]
  constructor
  · rintro (h | ⟨_, ⟨s, hv, hne, rfl⟩, cause, hparse, rfl⟩)
    · exact .text h
    · rw [Version.parse_trimmed] at hparse
      exact .invalid hv hne hparse
  · intro h
    cases h with
    | text h => exact .inl h
    | @invalid s cause hv hne hparse =>
      refine .inr ⟨_, ⟨s, hv, hne, rfl⟩, cause, ?_, rfl⟩
      rw [Version.parse_trimmed]
      exact hparse

theorem members_eq_error_iff : members v = .error fault ↔ ObjectFault v fault := by
  constructor
  · intro h
    unfold members at h
    split at h
    · cases h
      exact .missing rfl
    · cases h
    · next hnull hobject =>
      cases h
      exact .wrongType hnull hobject
  · intro h
    cases h with
    | missing hv =>
      rw [hv]
      rfl
    | wrongType hnull hobject =>
      cases v with
      | null => exact absurd rfl hnull
      | object members => exact absurd rfl (hobject members)
      | _ => rfl

theorem itemFault_string_iff {s : String} :
    ItemFault (.string s) fault ↔ Text.trimmed s = "" ∧ fault = .empty := by
  simp [itemFault_iff]

theorem itemFault_of_ne_string (h : ∀ s, v ≠ .string s) :
    ItemFault v fault ↔ fault = .wrongType .textList := by
  simp [itemFault_iff, h]

theorem entries_cons_eq_error_iff {l : List Json} :
    entries (v :: l) = .error fault ↔
      ItemFault v fault ∨ (∀ f, ¬ ItemFault v f) ∧ entries l = .error fault := by
  cases v with
  | string s =>
    simp only [entries, itemFault_string_iff]
    split
    · next hblank =>
      rw [List.isEmpty_iff, ← Text.trimmed_eq_empty_iff] at hblank
      simp [hblank, @eq_comm _ fault]
    · next hne =>
      rw [List.isEmpty_iff, ← Text.trimmed_eq_empty_iff] at hne
      simp [hne, map_eq_error_iff]
  | _ => simp [entries, itemFault_of_ne_string, @eq_comm _ fault]

theorem entries_eq_error_iff {items : List Json} :
    entries items = .error fault ↔ ∃ item, FirstFault ItemFault items item fault := by
  induction items with
  | nil => simp [entries, not_firstFault_nil]
  | cons v l ih =>
    rw [entries_cons_eq_error_iff, ih]
    simp only [FirstFault.cons_iff]
    constructor
    · rintro (h | ⟨hv, item, h⟩)
      · exact ⟨v, .inl ⟨h, rfl⟩⟩
      · exact ⟨item, .inr ⟨hv, h⟩⟩
    · rintro ⟨item, ⟨h, rfl⟩ | ⟨hv, h⟩⟩
      · exact .inl h
      · exact .inr ⟨hv, item, h⟩

theorem textSet_eq_error_iff : textSet v = .error fault ↔ ListFault v fault := by
  unfold textSet
  constructor
  · intro h
    split at h
    · cases h
    · rw [map_eq_error_iff, entries_eq_error_iff] at h
      rcases h with ⟨item, h⟩
      exact .item rfl h
    · next hnull harray =>
      cases h
      exact .wrongType hnull harray
  · intro h
    cases h with
    | item hv hitem =>
      rw [hv]
      exact map_eq_error_iff.2 (entries_eq_error_iff.2 ⟨_, hitem⟩)
    | wrongType hnull harray =>
      cases v with
      | null => exact absurd rfl hnull
      | array items => exact absurd rfl (harray items)
      | _ => rfl

theorem notItself_eq_error_iff {id : PackId} {ids : List PackId} :
    notItself id ids = .error fault ↔ fault = .selfReference ∧ id ∈ ids := by
  unfold notItself
  split
  · next h => simp [h, @eq_comm _ fault]
  · next h => simp [h]

theorem allSafe_eq_error_iff {paths : List String} (h : Ascending paths) :
    allSafe paths = .error fault ↔ ∃ path, fault = .unsafePath path ∧
      Least (fun t => t ∈ paths ∧ ArtifactPath.isSafe t = false) path := by
  have hfind : ∀ path, Least (fun t => t ∈ paths ∧ ArtifactPath.isSafe t = false) path ↔
      paths.find? (!ArtifactPath.isSafe ·) = some path := by
    intro path
    rw [h.find?_eq_some_iff]
    simp only [Bool.not_eq_true']
  simp only [hfind]
  unfold allSafe
  split
  · next hsome => simp [hsome, @eq_comm _ fault]
  · next hnone => simp [hnone]

end

/--
The computation fails iff one of the conditions is violated, and the first of these is then reported
about the pack.
-/
def ReportsFirst (r : Record) (pack : PackId) (cs : List Condition) (x : Except Error α) : Prop :=
  ∀ e, x = .error e ↔ e.pack = pack ∧ Reported r cs e.field e.fault

section

variable {r : Record} {pack : PackId} {c : Condition} {cs : List Condition}

theorem Reported.cons_iff {field : String} {fault : Fault} :
    Reported r (c :: cs) field fault ↔
      c.Violated r fault ∧ c.field = field ∨
        (∀ f, ¬ c.Violated r f) ∧ Reported r cs field fault := by
  unfold Reported
  simp only [FirstFault.cons_iff]
  constructor
  · rintro ⟨d, ⟨h, rfl⟩ | ⟨hc, h⟩, hfield⟩
    · exact .inl ⟨h, hfield⟩
    · exact .inr ⟨hc, d, h, hfield⟩
  · rintro (⟨h, hfield⟩ | ⟨hc, d, h, hfield⟩)
    · exact ⟨c, .inl ⟨h, rfl⟩, hfield⟩
    · exact ⟨d, .inr ⟨hc, h⟩, hfield⟩

theorem ReportsFirst.cons {x : Except Error α} (hc : ∀ fault, ¬ c.Violated r fault)
    (hx : ReportsFirst r pack cs x) : ReportsFirst r pack (c :: cs) x := by
  intro e
  rw [hx e, Reported.cons_iff]
  simp [hc]

theorem ReportsFirst.bind {check : Except Fault β} {f : β → Except Error α}
    (hcheck : ∀ fault, check = .error fault ↔ c.Violated r fault)
    (hf : ∀ b, check = .ok b → ReportsFirst r pack cs (f b)) :
    ReportsFirst r pack (c :: cs) (blame pack c.field check >>= f) := by
  cases check with
  | error fault =>
    intro e
    rw [Reported.cons_iff]
    simp only [← hcheck]
    constructor
    · intro h
      cases h
      exact ⟨rfl, .inl ⟨rfl, rfl⟩⟩
    · rintro ⟨rfl, ⟨hfault, hfield⟩ | ⟨hnone, _⟩⟩
      · cases hfault
        rw [hfield]
        rfl
      · exact absurd rfl (hnone fault)
  | ok b =>
    apply ReportsFirst.cons
    · intro fault hviolated
      cases (hcheck fault).2 hviolated
    · exact hf b rfl

theorem ReportsFirst.nil {a : α} : ReportsFirst r pack [] (pure a) := by
  intro e
  constructor
  · intro h
    exact absurd h Except.pure_ne_error
  · rintro ⟨_, c, hc, _⟩
    exact absurd hc not_firstFault_nil

end

namespace Condition

variable {r : Record} {fault : Fault} {name : String}

theorem innerVersion_iff {path outer : String} {inner : Record}
    (h : members (r.field outer) = .ok inner) :
    versionText (inner.field name) = .error fault ↔
      (innerVersion path outer name).Violated r fault := by
  rw [members_eq_ok_iff] at h
  unfold innerVersion
  simp only [h, versionText_eq_error_iff, Json.object.injEq, exists_eq_left']

theorem others_iff {id : PackId} {ids : List PackId} (hid : IsText (r.field "id") id)
    (h : textSet (r.field name) = .ok ids) :
    notItself id ids = .error fault ↔ (others name).Violated r fault := by
  rw [textSet_eq_ok_iff] at h
  rw [notItself_eq_error_iff, h.2.mem]
  unfold others
  constructor
  · rintro ⟨hfault, hentry⟩
    exact ⟨hfault, id, hid, hentry⟩
  · rintro ⟨hfault, id', hid', hentry⟩
    rw [hid'.unique hid] at hentry
    exact ⟨hfault, hentry⟩

theorem safePaths_iff {paths : List String} (h : textSet (r.field name) = .ok paths) :
    allSafe paths = .error fault ↔ (safePaths name).Violated r fault := by
  rw [textSet_eq_ok_iff] at h
  rw [allSafe_eq_error_iff h.2.ascending]
  unfold safePaths
  simp only [h.2.mem]

end Condition

theorem reportsFirst_tail_of_id {r : Record} {id : PackId} (hid : IsText (r.field "id") id) :
    ReportsFirst r id conditions.tail (ofRecord r) := by
  unfold ofRecord
  rw [blame_eq_ok_iff.2 (nonBlank_eq_ok_iff.2 hid)]
  change ReportsFirst r id _ (blame id "version" (versionText (r.field "version")) >>= _)
  apply ReportsFirst.bind fun _ => versionText_eq_error_iff
  intro version _
  apply ReportsFirst.bind fun _ => members_eq_error_iff
  intro range hrange
  apply ReportsFirst.bind fun _ => Condition.innerVersion_iff hrange
  intro engineMin _
  apply ReportsFirst.bind fun _ => Condition.innerVersion_iff hrange
  intro engineMax _
  apply ReportsFirst.bind fun _ => textSet_eq_error_iff
  intro requires hrequires
  apply ReportsFirst.bind fun _ => textSet_eq_error_iff
  intro conflictsWith hconflicts
  apply ReportsFirst.bind fun _ => Condition.others_iff hid hrequires
  intro _ _
  apply ReportsFirst.bind fun _ => Condition.others_iff hid hconflicts
  intro _ _
  apply ReportsFirst.bind fun _ => textSet_eq_error_iff
  intro artifacts hartifacts
  apply ReportsFirst.bind fun _ => Condition.safePaths_iff hartifacts
  intro _ _
  apply ReportsFirst.bind fun _ => textSet_eq_error_iff
  intro ownsSurfaces _
  apply ReportsFirst.bind fun _ => textSet_eq_error_iff
  intro touchesSurfaces _
  exact .nil

theorem field_ne_id {r : Record} {id : PackId} (hid : IsText (r.field "id") id) {e : Error}
    (he : ofRecord r = .error e) : e.field ≠ "id" := by
  rcases ((reportsFirst_tail_of_id hid e).1 he).2 with ⟨c, hfirst, hfield⟩
  have hall : ∀ c ∈ conditions.tail, c.field ≠ "id" := by decide
  rw [← hfield]
  exact hall c hfirst.1.mem

theorem reportsFirst_of_id {r : Record} {id : PackId} (hid : IsText (r.field "id") id) :
    ReportsFirst r id conditions (ofRecord r) := by
  apply ReportsFirst.cons _ (reportsFirst_tail_of_id hid)
  intro fault hfault
  have herror := nonBlank_eq_error_iff.2 hfault
  rw [nonBlank_eq_ok_iff.2 hid] at herror
  cases herror

theorem reportsFirst_of_not_id {r : Record} (hid : ∀ id, ¬ IsText (r.field "id") id) :
    ReportsFirst r unknownPack conditions (ofRecord r) := by
  unfold ofRecord
  apply ReportsFirst.bind fun _ => nonBlank_eq_error_iff
  intro id h
  exact absurd (nonBlank_eq_ok_iff.1 h) (hid id)

theorem exists_isNamed (r : Record) : ∃ pack, IsNamed r pack := by
  by_cases h : ∃ id, IsText (r.field "id") id
  · rcases h with ⟨id, hid⟩
    exact ⟨id, .inl hid⟩
  · exact ⟨unknownPack, .inr ⟨not_exists.1 h, rfl⟩⟩

theorem isNamed_iff_of_id {r : Record} {id pack : PackId} (hid : IsText (r.field "id") id) :
    IsNamed r pack ↔ pack = id := by
  unfold IsNamed
  constructor
  · rintro (h | ⟨hnone, _⟩)
    · exact h.unique hid
    · exact absurd hid (hnone id)
  · rintro rfl
    exact .inl hid

theorem isNamed_iff_of_not_id {r : Record} {pack : PackId}
    (hid : ∀ id, ¬ IsText (r.field "id") id) : IsNamed r pack ↔ pack = unknownPack := by
  unfold IsNamed
  simp [hid]

theorem ofRecord_eq_error_iff {r : Record} {e : Error} :
    ofRecord r = .error e ↔ IsNamed r e.pack ∧ Reported r conditions e.field e.fault := by
  by_cases h : ∃ id, IsText (r.field "id") id
  · rcases h with ⟨id, hid⟩
    rw [isNamed_iff_of_id hid]
    exact reportsFirst_of_id hid e
  · rw [not_exists] at h
    rw [isNamed_iff_of_not_id h]
    exact reportsFirst_of_not_id h e

/--
The conditions leave nothing out: a record that violates none of them is valid.
-/
theorem valid_iff_not_violated {r : Record} :
    Valid r ↔ ∀ c ∈ conditions, ∀ fault, ¬ c.Violated r fault := by
  rw [← exists_ofRecord_iff]
  constructor
  · rintro ⟨m, hm⟩ c hc fault hviolated
    rcases FirstFault.exists_of_mem (·.Violated r) hc hviolated with ⟨c', fault', hfirst⟩
    rcases exists_isNamed r with ⟨pack, hpack⟩
    have herror : ofRecord r = .error ⟨pack, c'.field, fault'⟩ :=
      ofRecord_eq_error_iff.2 ⟨hpack, c', hfirst, rfl⟩
    rw [hm] at herror
    cases herror
  · intro h
    rcases Except.eq_ok_or_exists_error (ofRecord r) with hok | ⟨e, he⟩
    · exact hok
    · rcases (ofRecord_eq_error_iff.1 he).2 with ⟨c, hfirst, _⟩
      exact absurd hfirst.2 (h c hfirst.1.mem _)

/--
Exactly the valid records have a manifest. The manifest says what the record says, with every list
made ascending. Any other record is refused for the first condition, in the order of `conditions`,
that it violates.
-/
theorem ofRecord_accepts_exactly (r : Record) :
    ((∃ m, ofRecord r = .ok m) ↔ Valid r) ∧
      (∀ m, ofRecord r = .ok m ↔ Valid r ∧ Declares r m) ∧
      ∀ e, ofRecord r = .error e ↔
        IsNamed r e.pack ∧ Reported r conditions e.field e.fault :=
  ⟨exists_ofRecord_iff, fun _ => ofRecord_eq_ok_iff_valid, fun _ => ofRecord_eq_error_iff⟩

end GovernanceLock.Manifest

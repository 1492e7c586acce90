import GovernanceLock.Proofs.Text.Padding
import GovernanceLock.Trust

/-!
This module contains the precedence of those who may decide whether the workspace takes part: each
decides if it says anything and nobody before it does, and if nobody does the answer is no. A run
may decide with any of a few words.
-/

namespace GovernanceLock.TrustPolicy

open Json (Record)

/--
There is a record, and its member for the flag is this truth value.
-/
def Says (r : Option Record) (b : Bool) : Prop :=
  ∃ members, r = some members ∧
    KeyMap.lookup "workspace_overrides_enabled" members = some (.bool b)

/--
The policy that follows from what the repository, the global settings and the run say: the first
that says anything decides, and is named as the source.
-/
inductive Decided (repo global : Option Record) (override : Option Bool) : TrustPolicy → Prop where
  | repo {b : Bool} : Says repo b → Decided repo global override ⟨b, .repoPolicy⟩
  | global {b : Bool} : (∀ b, ¬ Says repo b) → Says global b →
      Decided repo global override ⟨b, .globalPolicy⟩
  | override {b : Bool} : (∀ b, ¬ Says repo b) → (∀ b, ¬ Says global b) → override = some b →
      Decided repo global override ⟨b, .runtimeOverride⟩
  | default : (∀ b, ¬ Says repo b) → (∀ b, ¬ Says global b) → override = none →
      Decided repo global override ⟨false, .default⟩

def words : Bool → List String
  | true => ["1", "true", "yes", "on"]
  | false => ["0", "false", "no", "off"]

/--
The text is one of the words for a truth value, in any case and with any blanks around it.
-/
def Means (text : String) (b : Bool) : Prop :=
  ∃ core, Text.IsCore text.toList core ∧ String.ofList (core.map Text.asciiLower) ∈ words b

variable {r repo global : Option Record} {override : Option Bool}

theorem flag?_eq_some_iff {b : Bool} : flag? r = some b ↔ Says r b := by
  unfold flag? Says field
  cases r with
  | none => simp
  | some members =>
    simp only [Option.bind_some, Option.some.injEq, exists_eq_left']
    split
    · next h => simp [h]
    · next hne => simpa using hne b

theorem flag?_eq_none_iff : flag? r = none ↔ ∀ b, ¬ Says r b := by
  rw [Option.eq_none_iff_forall_ne_some]
  simp only [ne_eq, flag?_eq_some_iff]

theorem decide_eq_iff {p : TrustPolicy} :
    decide repo global override = p ↔ Decided repo global override p := by
  constructor
  · rintro rfl
    unfold decide
    split
    · next b hrepo => exact .repo (flag?_eq_some_iff.1 hrepo)
    · next b hrepo hglobal =>
      exact .global (flag?_eq_none_iff.1 hrepo) (flag?_eq_some_iff.1 hglobal)
    · next b hrepo hglobal =>
      exact .override (flag?_eq_none_iff.1 hrepo) (flag?_eq_none_iff.1 hglobal) rfl
    · next hrepo hglobal =>
      exact .default (flag?_eq_none_iff.1 hrepo) (flag?_eq_none_iff.1 hglobal) rfl
  · intro h
    unfold decide
    cases h with
    | repo hrepo => rw [flag?_eq_some_iff.2 hrepo]
    | global hrepo hglobal => rw [flag?_eq_none_iff.2 hrepo, flag?_eq_some_iff.2 hglobal]
    | override hrepo hglobal hoverride =>
      rw [flag?_eq_none_iff.2 hrepo, flag?_eq_none_iff.2 hglobal, hoverride]
    | default hrepo hglobal hoverride =>
      rw [flag?_eq_none_iff.2 hrepo, flag?_eq_none_iff.2 hglobal, hoverride]

theorem not_mem_words_true {word : String} (h : word ∈ words false) : word ∉ words true := by
  have hapart : ∀ word ∈ words false, word ∉ words true := by
    decide
  exact hapart word h

theorem parseOverride_eq_some_iff {text : String} {b : Bool} :
    parseOverride text = some b ↔ Means text b := by
  unfold Means
  simp only [Text.isCore_iff, exists_eq_left']
  unfold parseOverride
  change (if _ ∈ words true then _ else if _ ∈ words false then _ else _) = _ ↔ _
  split
  · next htrue =>
    cases b with
    | true => simp [htrue]
    | false => simpa using fun hfalse => not_mem_words_true hfalse htrue
  · next htrue =>
    split
    · next hfalse =>
      cases b with
      | true => simp [htrue]
      | false => simp [hfalse]
    · next hfalse =>
      cases b with
      | true => simp [htrue]
      | false => simp [hfalse]

end GovernanceLock.TrustPolicy

import GovernanceLock.Json.Fields
import GovernanceLock.Proofs.Json.Fits
import GovernanceLock.Proofs.Text.Digits

/-!
This module contains the tree that the text of a value says, and the proof that its value is the
value it was made of. The reading of texts is left out of this module; it starts from the tree.
-/

namespace GovernanceLock.Json

def charUnits (ascii : Bool) (c : Char) : Units :=
  if ascii ∧ 0x10000 ≤ c.toNat then
    [0xD800 + (c.toNat - 0x10000) / 0x400, 0xDC00 + (c.toNat - 0x10000) % 0x400]
  else [c.toNat]

def textUnits (ascii : Bool) (s : String) : Units :=
  s.toList.flatMap (charUnits ascii)

def Number.numeral : Number → Numeral
  | .integer n => .ofInt n
  | .double _ => .ofInt 0

mutual

/--
What the text of a value says.
-/
def tree (ascii : Bool) : Json → Tree
  | .null => .null
  | .bool b => .bool b
  | .number n => .number n.numeral
  | .string s => .string (textUnits ascii s)
  | .array items => .array (treeItems ascii items)
  | .object members => .object (treeMembers ascii members)

def treeItems (ascii : Bool) : List Json → List Tree
  | [] => []
  | v :: rest => tree ascii v :: treeItems ascii rest

def treeMembers (ascii : Bool) : List (String × Json) → List (Units × Tree)
  | [] => []
  | (key, v) :: rest => (textUnits ascii key, tree ascii v) :: treeMembers ascii rest

end

mutual

/--
The members of every object in a tree stand in ascending order of their keys, as text.
-/
def Tree.Ordered : Tree → Prop
  | .array items => OrderedItems items
  | .object members =>
    (∃ keyed, Tree.keyed? members = some keyed ∧ keyed.Pairwise fun a b => a.1 < b.1) ∧
      OrderedMembers members
  | _ => True

def Tree.OrderedItems : List Tree → Prop
  | [] => True
  | t :: rest => Ordered t ∧ OrderedItems rest

def Tree.OrderedMembers : List (Units × Tree) → Prop
  | [] => True
  | (_, t) :: rest => Ordered t ∧ OrderedMembers rest

end

theorem toNat_lt_or_gt_surrogates (c : Char) :
    c.toNat < 0xD800 ∨ 0xE000 ≤ c.toNat ∧ c.toNat < 0x110000 := by
  have h := c.valid
  unfold UInt32.isValidChar Nat.isValidChar at h
  rw [Char.toNat_val] at h
  omega

theorem isHighSurrogate_toNat (c : Char) : isHighSurrogate c.toNat = false := by
  have := toNat_lt_or_gt_surrogates c
  unfold isHighSurrogate
  simp only [Bool.and_eq_false_imp, decide_eq_true_eq, decide_eq_false_iff_not]
  omega

theorem isLowSurrogate_toNat (c : Char) : isLowSurrogate c.toNat = false := by
  have := toNat_lt_or_gt_surrogates c
  unfold isLowSurrogate
  simp only [Bool.and_eq_false_imp, decide_eq_true_eq, decide_eq_false_iff_not]
  omega

theorem joinSurrogates_toNat {c : Char} (h : 0x10000 ≤ c.toNat) :
    joinSurrogates (0xD800 + (c.toNat - 0x10000) / 0x400) (0xDC00 + (c.toNat - 0x10000) % 0x400)
      = c := by
  unfold joinSurrogates
  have : 0x10000 + (0xD800 + (c.toNat - 0x10000) / 0x400 - 0xD800) * 0x400
      + (0xDC00 + (c.toNat - 0x10000) % 0x400 - 0xDC00) = c.toNat := by
    omega
  rw [this, Char.ofNat_toNat]

theorem charsOfUnits?_toNat_cons (c : Char) (rest : Units) :
    charsOfUnits? (c.toNat :: rest) = (charsOfUnits? rest).map (c :: ·) := by
  cases rest with
  | nil => simp [charsOfUnits?, isHighSurrogate_toNat, isLowSurrogate_toNat]
  | cons u rest => simp [charsOfUnits?, isHighSurrogate_toNat, isLowSurrogate_toNat]

theorem charsOfUnits?_charUnits (ascii : Bool) (c : Char) (rest : Units) :
    charsOfUnits? (charUnits ascii c ++ rest) = (charsOfUnits? rest).map (c :: ·) := by
  have hc := toNat_lt_or_gt_surrogates c
  unfold charUnits
  split
  · next h =>
    have hhigh : isHighSurrogate (0xD800 + (c.toNat - 0x10000) / 0x400) = true := by
      unfold isHighSurrogate
      simp only [Bool.and_eq_true, decide_eq_true_eq]
      omega
    have hlow : isLowSurrogate (0xDC00 + (c.toNat - 0x10000) % 0x400) = true := by
      unfold isLowSurrogate
      simp only [Bool.and_eq_true, decide_eq_true_eq]
      omega
    rw [List.cons_append, List.singleton_append, charsOfUnits?, if_pos hhigh, if_pos hlow,
      joinSurrogates_toNat h.2]
  · exact charsOfUnits?_toNat_cons c rest

theorem textOfUnits?_textUnits (ascii : Bool) (s : String) :
    textOfUnits? (textUnits ascii s) = some s := by
  have hchars : ∀ cs : List Char, charsOfUnits? (cs.flatMap (charUnits ascii)) = some cs := by
    intro cs
    induction cs with
    | nil => simp [charsOfUnits?]
    | cons c cs ih =>
      rw [List.flatMap_cons, charsOfUnits?_charUnits, ih]
      rfl
  unfold textOfUnits? textUnits
  rw [hchars, Option.map_some, String.ofList_toList]

theorem digitsValue_digitsOf (n : Nat) : digitsValue (digitsOf n) = n := by
  unfold digitsValue digitsOf
  rw [List.foldl_map]
  exact Text.digitsValue_toDigits n

theorem number?_numeral {n : Number} (h : n.IsWord) : n.numeral.number? = some n := by
  cases n with
  | double bits => exact h.elim
  | integer n =>
    unfold Number.IsWord at h
    unfold Number.numeral Numeral.ofInt Numeral.number?
    simp only [digitsValue_digitsOf, List.isEmpty_nil, Option.isNone_none, Bool.and_true,
      Bool.true_and, maxWord, UInt64.size]
    by_cases hneg : n < 0
    · rw [if_neg, if_pos]
      · simp only [Option.some.injEq, Number.integer.injEq]
        omega
      · simp only [Bool.and_eq_true, decide_eq_true_eq]
        omega
      · simp [hneg]
    · rw [if_pos]
      · simp only [Option.some.injEq, Number.integer.injEq]
        omega
      · simp only [Bool.and_eq_true, decide_eq_true_eq, Bool.not_eq_eq_eq_not, Bool.not_true,
          decide_eq_false_iff_not]
        omega

section

variable (ascii : Bool)

theorem treeItems_eq_map (items : List Json) : treeItems ascii items = items.map (tree ascii) := by
  induction items with
  | nil => rfl
  | cons v rest ih => rw [treeItems, ih, List.map_cons]

mutual

theorem value?_tree (v : Json) (hordered : v.Ordered) (hintegral : v.Integral) :
    (tree ascii v).value? = some v := by
  cases v with
  | null => rfl
  | bool b => rfl
  | number n =>
    rw [tree, Tree.value?, number?_numeral hintegral]
    rfl
  | string s =>
    rw [tree, Tree.value?, textOfUnits?_textUnits]
    rfl
  | array items =>
    rw [tree, Tree.value?, valueOfItems?_treeItems items hordered hintegral]
    rfl
  | object members =>
    rw [tree, Tree.value?, valueOfMembers?_treeMembers members hordered.2 hintegral,
      Option.map_some, ofMembers, KeyMap.entries_ofList hordered.1]

theorem valueOfItems?_treeItems (items : List Json) (hordered : OrderedItems items)
    (hintegral : IntegralItems items) :
    Tree.valueOfItems? (treeItems ascii items) = some items := by
  cases items with
  | nil => rfl
  | cons v rest =>
    rw [treeItems, Tree.valueOfItems?, value?_tree v hordered.1 hintegral.1,
      valueOfItems?_treeItems rest hordered.2 hintegral.2]

theorem valueOfMembers?_treeMembers (members : List (String × Json))
    (hordered : OrderedMembers members) (hintegral : IntegralMembers members) :
    Tree.valueOfMembers? (treeMembers ascii members) = some members := by
  cases members with
  | nil => rfl
  | cons e rest =>
    rw [treeMembers, Tree.valueOfMembers?, textOfUnits?_textUnits,
      value?_tree e.2 hordered.1 hintegral.1,
      valueOfMembers?_treeMembers rest hordered.2 hintegral.2]

end

mutual

theorem depth_tree (v : Json) : (tree ascii v).depth = v.depth := by
  cases v with
  | null => rfl
  | bool b => rfl
  | number n => rfl
  | string s => rfl
  | array items => rw [tree, Tree.depth, depth, depthOfItems_treeItems items]
  | object members => rw [tree, Tree.depth, depth, depthOfMembers_treeMembers members]

theorem depthOfItems_treeItems (items : List Json) :
    Tree.depthOfItems (treeItems ascii items) = depthOfItems items := by
  cases items with
  | nil => rfl
  | cons v rest =>
    rw [treeItems, Tree.depthOfItems, depthOfItems, depth_tree v, depthOfItems_treeItems rest]

theorem depthOfMembers_treeMembers (members : List (String × Json)) :
    Tree.depthOfMembers (treeMembers ascii members) = depthOfMembers members := by
  cases members with
  | nil => rfl
  | cons e rest =>
    rw [treeMembers, Tree.depthOfMembers, depthOfMembers, depth_tree e.2,
      depthOfMembers_treeMembers rest]

end

theorem keyed?_treeMembers (members : List (String × Json)) :
    Tree.keyed? (treeMembers ascii members)
      = some (members.map fun e => (e.1, tree ascii e.2)) := by
  induction members with
  | nil => rfl
  | cons e rest ih =>
    rw [treeMembers, Tree.keyed?, textOfUnits?_textUnits, ih]
    rfl

mutual

theorem ordered_tree (v : Json) (h : v.Ordered) : (tree ascii v).Ordered := by
  cases v with
  | null => trivial
  | bool b => trivial
  | number n => trivial
  | string s => trivial
  | array items => exact orderedItems_treeItems items h
  | object members =>
    refine ⟨⟨_, keyed?_treeMembers ascii members, ?_⟩, orderedMembers_treeMembers members h.2⟩
    rw [List.pairwise_map]
    exact h.1

theorem orderedItems_treeItems (items : List Json) (h : OrderedItems items) :
    Tree.OrderedItems (treeItems ascii items) := by
  cases items with
  | nil => trivial
  | cons v rest => exact ⟨ordered_tree v h.1, orderedItems_treeItems rest h.2⟩

theorem orderedMembers_treeMembers (members : List (String × Json)) (h : OrderedMembers members) :
    Tree.OrderedMembers (treeMembers ascii members) := by
  cases members with
  | nil => trivial
  | cons e rest => exact ⟨ordered_tree e.2 h.1, orderedMembers_treeMembers rest h.2⟩

end

end

end GovernanceLock.Json

import GovernanceLock.Json.Basic
import GovernanceLock.Order.Ascending

/-!
This module contains the values that can be told in JSON texts without loss: their objects are in
order, their numbers are integers of 64 bits, and they are not nested too deeply. The values that
the library makes of its own data are of this kind.
-/

namespace GovernanceLock.Json

/--
An integer that fits 64 bits, with or without a sign.
-/
def Number.IsWord : Number → Prop
  | .integer n => -0x8000000000000000 ≤ n ∧ n ≤ 0xFFFFFFFFFFFFFFFF
  | .double _ => False

instance : (n : Number) → Decidable n.IsWord
  | .integer n => inferInstanceAs (Decidable (-0x8000000000000000 ≤ n ∧ n ≤ 0xFFFFFFFFFFFFFFFF))
  | .double _ => inferInstanceAs (Decidable False)

mutual

def Integral : Json → Prop
  | .number n => n.IsWord
  | .array items => IntegralItems items
  | .object members => IntegralMembers members
  | _ => True

def IntegralItems : List Json → Prop
  | [] => True
  | v :: rest => Integral v ∧ IntegralItems rest

def IntegralMembers : List (String × Json) → Prop
  | [] => True
  | (_, v) :: rest => Integral v ∧ IntegralMembers rest

end

mutual

/--
The members of every object in a value stand in ascending order of their keys.
-/
def Ordered : Json → Prop
  | .array items => OrderedItems items
  | .object members => members.Pairwise (fun a b => a.1 < b.1) ∧ OrderedMembers members
  | _ => True

def OrderedItems : List Json → Prop
  | [] => True
  | v :: rest => Ordered v ∧ OrderedItems rest

def OrderedMembers : List (String × Json) → Prop
  | [] => True
  | (_, v) :: rest => Ordered v ∧ OrderedMembers rest

end

section

variable {items : List Json} {members : List (String × Json)} {limit : Nat}

theorem integralItems_iff : IntegralItems items ↔ ∀ v ∈ items, v.Integral := by
  induction items with
  | nil => simp [IntegralItems]
  | cons v rest ih => rw [IntegralItems, List.forall_mem_cons, ih]

theorem integralMembers_iff : IntegralMembers members ↔ ∀ e ∈ members, e.2.Integral := by
  induction members with
  | nil => simp [IntegralMembers]
  | cons e rest ih => rw [IntegralMembers, List.forall_mem_cons, ih]

theorem orderedItems_iff : OrderedItems items ↔ ∀ v ∈ items, v.Ordered := by
  induction items with
  | nil => simp [OrderedItems]
  | cons v rest ih => rw [OrderedItems, List.forall_mem_cons, ih]

theorem orderedMembers_iff : OrderedMembers members ↔ ∀ e ∈ members, e.2.Ordered := by
  induction members with
  | nil => simp [OrderedMembers]
  | cons e rest ih => rw [OrderedMembers, List.forall_mem_cons, ih]

theorem depthOfItems_le_iff : depthOfItems items ≤ limit ↔ ∀ v ∈ items, v.depth ≤ limit := by
  induction items with
  | nil => simp [depthOfItems]
  | cons v rest ih => rw [depthOfItems, Nat.max_le, List.forall_mem_cons, ih]

theorem depthOfMembers_le_iff :
    depthOfMembers members ≤ limit ↔ ∀ e ∈ members, e.2.depth ≤ limit := by
  induction members with
  | nil => simp [depthOfMembers]
  | cons e rest ih => rw [depthOfMembers, Nat.max_le, List.forall_mem_cons, ih]

end

/--
The members of every object are in order, the numbers are integers of 64 bits, and no more than
`limit` arrays and objects are nested.
-/
structure Fits (v : Json) (limit : Nat) : Prop where
  ordered : v.Ordered
  integral : v.Integral
  shallow : v.depth ≤ limit

namespace Fits

variable {limit : Nat}

theorem string (s : String) : (Json.string s).Fits limit :=
  ⟨trivial, trivial, Nat.zero_le limit⟩

theorem bool (b : Bool) : (Json.bool b).Fits limit :=
  ⟨trivial, trivial, Nat.zero_le limit⟩

theorem array {items : List Json} (h : ∀ v ∈ items, v.Fits limit) :
    (Json.array items).Fits (limit + 1) := by
  constructor
  · exact orderedItems_iff.2 fun v hv => (h v hv).ordered
  · exact integralItems_iff.2 fun v hv => (h v hv).integral
  · exact Nat.succ_le_succ (depthOfItems_le_iff.2 fun v hv => (h v hv).shallow)

theorem object {members : List (String × Json)} (hkeys : Ascending (members.map (·.1)))
    (h : ∀ e ∈ members, e.2.Fits limit) : (Json.object members).Fits (limit + 1) := by
  constructor
  · exact ⟨List.pairwise_map.1 hkeys, orderedMembers_iff.2 fun e he => (h e he).ordered⟩
  · exact integralMembers_iff.2 fun e he => (h e he).integral
  · exact Nat.succ_le_succ (depthOfMembers_le_iff.2 fun e he => (h e he).shallow)

theorem strings (l : List String) : (Json.strings l).Fits (limit + 1) := by
  apply array
  intro v hv
  rcases List.mem_map.1 hv with ⟨s, _, rfl⟩
  exact string s

end Fits

end GovernanceLock.Json

/-!
This module contains the division of a text at a separator, and the joining of parts with a text
between them. Dividing and joining undo each other: `join_parts`.
-/

namespace GovernanceLock.Text

def parts (separator : Char) : List Char → List (List Char)
  | [] => [[]]
  | c :: cs =>
    if c = separator then [] :: parts separator cs
    else
      match parts separator cs with
      | [] => [[c]]
      | part :: rest => (c :: part) :: rest

def join (separator : List Char) : List (List Char) → List Char
  | [] => []
  | [part] => part
  | part :: rest => part ++ separator ++ join separator rest

theorem join_cons_cons (separator part next : List Char) (rest : List (List Char)) :
    join separator (part :: next :: rest) = part ++ separator ++ join separator (next :: rest) := by
  simp [join]

theorem parts_ne_nil (separator : Char) (cs : List Char) : parts separator cs ≠ [] := by
  cases cs with
  | nil => simp [parts]
  | cons c cs =>
    rw [parts]
    split
    · simp
    · split <;> simp

theorem parts_of_not_mem {separator : Char} {cs : List Char} (h : separator ∉ cs) :
    parts separator cs = [cs] := by
  induction cs with
  | nil => rfl
  | cons c cs ih =>
    rw [List.mem_cons, not_or] at h
    rw [parts, if_neg (Ne.symm h.1), ih h.2]

theorem parts_append_cons {separator : Char} {cs : List Char} (h : separator ∉ cs)
    (rest : List Char) : parts separator (cs ++ separator :: rest) = cs :: parts separator rest := by
  induction cs with
  | nil => rw [List.nil_append, parts, if_pos rfl]
  | cons c cs ih =>
    rw [List.mem_cons, not_or] at h
    rw [List.cons_append, parts, if_neg (Ne.symm h.1), ih h.2]

theorem join_parts (separator : Char) (cs : List Char) :
    join [separator] (parts separator cs) = cs := by
  induction cs with
  | nil => rfl
  | cons c cs ih =>
    rw [parts]
    split
    · next h =>
      cases hp : parts separator cs with
      | nil => exact absurd hp (parts_ne_nil separator cs)
      | cons part rest => rw [hp] at ih; rw [join, ih, h]; · rfl
                          · simp
    · cases hp : parts separator cs with
      | nil => exact absurd hp (parts_ne_nil separator cs)
      | cons part rest =>
        rw [hp] at ih
        cases rest with
        | nil => simpa [join] using ih
        | cons r rs => simpa [join] using ih

def joinTexts (separator : String) (texts : List String) : String :=
  String.ofList (join separator.toList (texts.map String.toList))

end GovernanceLock.Text

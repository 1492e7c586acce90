import GovernanceLock.Proofs.Json.Ascii

/-!
This module contains the statement that the texts of digests and of lock files give back the value
they were made of, so that a canonical text stands for one value only.
-/

namespace GovernanceLock.Json

/--
The text of a value in this style is ASCII, gives the value back, and has the members of every
object in ascending order of their keys.
-/
structure Style.Keeps (style : Style) (v : Json) : Prop where
  parse? : parse? (v.render style) = some v
  ascii : IsAscii (v.render style).toList
  ordered : ∃ t, Tree.parse? (v.render style).toList = some t ∧ t.Ordered

theorem Tree.parse?_render (style : Style) {v : Json} (hv : v.Integral) :
    Tree.parse? (v.render style).toList = some (v.tree style.ascii) := by
  unfold render
  rw [String.toList_ofList, ← List.append_nil (write style 0 v)]
  exact Tree.parse?_write style hv (List.forall_mem_nil _)

theorem parse?_render_append (style : Style) {v : Json} (h : v.Fits depthLimit) {tail : String}
    (htail : ∀ c ∈ tail.toList, Reader.isSpace c = true) :
    Json.parse? (v.render style ++ tail) = some v := by
  have htree : Tree.parse? (v.render style ++ tail).toList = some (v.tree style.ascii) := by
    unfold render
    rw [String.toList_append, String.toList_ofList]
    exact Tree.parse?_write style h.integral htail
  unfold Json.parse?
  rw [htree, Option.bind_some, if_pos]
  · exact value?_tree style.ascii v h.ordered h.integral
  · rw [depth_tree]
    exact h.shallow

theorem parse?_render (style : Style) {v : Json} (h : v.Fits depthLimit) :
    Json.parse? (v.render style) = some v := by
  rw [← String.append_empty (s := v.render style)]
  exact parse?_render_append style h nofun

theorem Fits.keeps {v : Json} (h : v.Fits depthLimit) {style : Style}
    (hstyle : style.ascii = true) : style.Keeps v := by
  constructor
  · exact parse?_render style h
  · unfold render
    rw [String.toList_ofList]
    exact IsAscii.write hstyle 0 v h.integral
  · exact ⟨_, Tree.parse?_render style h.integral, ordered_tree style.ascii v h.ordered⟩

theorem render_injective (style : Style) {v w : Json} (hv : v.Fits depthLimit)
    (hw : w.Fits depthLimit) (h : v.render style = w.render style) : v = w := by
  have hread := parse?_render style hv
  rw [h, parse?_render style hw] at hread
  exact (Option.some.inj hread).symm

/--
A value of integers that nests at most 127 arrays and objects is read back from both of its ASCII
texts, whose objects are in ascending order of their keys; so its canonical text is its own.
-/
theorem texts_read_back {v : Json} (h : v.Fits depthLimit) :
    Style.canonical.Keeps v ∧ Style.file.Keeps v ∧
      ∀ w : Json, w.Fits depthLimit → (v.canonical = w.canonical ↔ v = w) := by
  refine ⟨h.keeps rfl, h.keeps rfl, ?_⟩
  intro w hw
  constructor
  · intro heq
    exact render_injective .canonical h hw heq
  · rintro rfl
    rfl

section

/-!
A value with a character of every kind that is written in a way of its own, as a key and as text.
-/

def mixedText : String := "\"\\/\x00\n\x1f\x7f~é\uffff😀"

def mixedValue : Json :=
  .object
    [("", .array [.number (.integer (-9223372036854775808)), .array [], .object []]),
     (mixedText, .string mixedText),
     ("é", .object [("a", .null), ("\uffff", .bool true), ("😀", .natural 18446744073709551615)])]

theorem mixedValue_fits : mixedValue.Fits depthLimit where
  ordered := by
    have houter : Ascending ["", mixedText, "é"] := by decide
    have hinner : Ascending ["a", "\uffff", "😀"] := by decide
    exact ⟨List.pairwise_map.1 houter, ⟨trivial, trivial, ⟨.nil, trivial⟩, trivial⟩, trivial,
      ⟨List.pairwise_map.1 hinner, trivial, trivial, trivial, trivial⟩, trivial⟩
  integral := by
    have hleast : (Number.integer (-9223372036854775808)).IsWord := by decide
    have hgreatest : (Number.integer 18446744073709551615).IsWord := by decide
    exact ⟨⟨hleast, trivial, trivial, trivial⟩, trivial, ⟨trivial, trivial, hgreatest, trivial⟩,
      trivial⟩
  shallow := by decide

theorem mixedValue_read_back :
    mixedValue.Fits depthLimit ∧ Style.canonical.Keeps mixedValue ∧ Style.file.Keeps mixedValue ∧
      (Json.string mixedText).Fits depthLimit ∧
      mixedValue.canonical ≠ (Json.string mixedText).canonical := by
  have htext : (Json.string mixedText).Fits depthLimit := ⟨trivial, trivial, by decide⟩
  rcases texts_read_back mixedValue_fits with ⟨hcanonical, hfile, hinjective⟩
  refine ⟨mixedValue_fits, hcanonical, hfile, htext, ?_⟩
  intro heq
  have := (hinjective _ htext).1 heq
  cases this

end

end GovernanceLock.Json

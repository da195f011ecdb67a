/-
**Texts made of labels.**

A text is put together from labels with a separator between them, as a domain name is with dots.  Its
suffixes on label boundaries get shorter with every label that is dropped, and the text after the
first separator is the suffix without the first label.

Main definitions:

* `Labels.suffix` — the text from a label on;
* `Labels.Longest` — the first label from which on the text has a property.

Main results:

* `Labels.drop_idxOf` — the text after the first separator;
* `Labels.Longest.unique`, `Labels.exists_longest` — there is one such label, if there is any;
* `Labels.of_mem_splitOn` — the labels of a text;
* `Labels.longest_succ_cons` — dropping the first label, when the whole text does not have the
  property.
-/

import Mathlib.Data.List.Basic
import Mathlib.Data.Nat.Find

set_option relaxedAutoImplicit false
set_option autoImplicit false

namespace Labels

variable {α : Type*} (sep : α)

/-- The text from the label with index `i` on. -/
def suffix (labels : List (List α)) (i : ℕ) : List α := [sep].intercalate (labels.drop i)

/-- The label with index `i` is the first one from which on the text has the property `P`: what
follows is the longest suffix that has it. -/
structure Longest (P : List α → Prop) (labels : List (List α)) (i : ℕ) : Prop where
  lt_length : i < labels.length
  holds : P (suffix sep labels i)
  first : ∀ j < i, ¬ P (suffix sep labels j)

variable {sep}

@[simp] theorem suffix_zero (labels : List (List α)) :
    suffix sep labels 0 = [sep].intercalate labels := rfl

@[simp] theorem suffix_succ_cons (label : List α) (labels : List (List α)) (i : ℕ) :
    suffix sep (label :: labels) (i + 1) = suffix sep labels i := rfl

/-- There is one longest suffix at most. -/
theorem Longest.unique {P : List α → Prop} {labels : List (List α)} {i j : ℕ}
    (hi : Longest sep P labels i) (hj : Longest sep P labels j) : i = j := by
  rcases Nat.lt_trichotomy i j with hlt | heq | hgt
  · exact absurd hi.holds (hj.first i hlt)
  · exact heq
  · exact absurd hj.holds (hi.first j hgt)

/-- Where the whole text has the property, it is its own longest suffix. -/
theorem longest_zero {P : List α → Prop} {label : List α} {labels : List (List α)}
    (h : P ([sep].intercalate (label :: labels))) : Longest sep P (label :: labels) 0 :=
  ⟨Nat.succ_pos _, h, fun j hj => absurd hj (Nat.not_lt_zero j)⟩

/-- Where a suffix has the property, there is a longest one. -/
theorem exists_longest {P : List α → Prop} {labels : List (List α)} {i : ℕ}
    (hi : i < labels.length) (h : P (suffix sep labels i)) : ∃ j ≤ i, Longest sep P labels j := by
  classical
  have hex : ∃ j, P (suffix sep labels j) := ⟨i, h⟩
  have hle : Nat.find hex ≤ i := Nat.find_min' hex h
  exact ⟨Nat.find hex, hle, Nat.lt_of_le_of_lt hle hi, Nat.find_spec hex,
    fun j hj => Nat.find_min hex hj⟩

/-- **Where the whole text does not have the property, the first label can be dropped.** -/
theorem longest_succ_cons {P : List α → Prop} {label : List α} {labels : List (List α)} {i : ℕ}
    (h : ¬ P ([sep].intercalate (label :: labels))) :
    Longest sep P (label :: labels) (i + 1) ↔ Longest sep P labels i := by
  constructor
  · rintro ⟨hlt, hholds, hfirst⟩
    refine ⟨Nat.lt_of_succ_lt_succ hlt, hholds, ?_⟩
    intro j hj
    exact hfirst (j + 1) (Nat.succ_lt_succ hj)
  · rintro ⟨hlt, hholds, hfirst⟩
    refine ⟨Nat.succ_lt_succ hlt, hholds, ?_⟩
    intro j hj
    cases j with
    | zero => exact h
    | succ j => exact hfirst j (Nat.lt_of_succ_lt_succ hj)

theorem notMem_intercalate {c : α} {labels : List (List α)} (hc : c ≠ sep)
    (h : ∀ label ∈ labels, c ∉ label) : c ∉ [sep].intercalate labels := by
  induction labels with
  | nil => exact List.not_mem_nil
  | cons label labels ih =>
      have hlabel := h label List.mem_cons_self
      cases labels with
      | nil =>
          rw [List.intercalate_singleton]
          exact hlabel
      | cons next rest =>
          rw [List.intercalate_cons_cons, List.mem_append, List.mem_append, List.mem_singleton]
          rintro ((hmem | rfl) | hmem)
          · exact hlabel hmem
          · exact hc rfl
          · exact ih (fun l hl => h l (List.mem_cons_of_mem label hl)) hmem

/-- The labels that a text is split into have no separator, and all that is in them is in the text. -/
theorem of_mem_splitOn [BEq α] [LawfulBEq α] {text label : List α} (h : label ∈ text.splitOn sep) :
    sep ∉ label ∧ label ⊆ text := by
  induction text generalizing label with
  | nil =>
      rw [List.splitOn_nil, List.mem_singleton] at h
      simp [h]
  | cons c text ih =>
      rw [List.splitOn_cons_eq_if_modifyHead] at h
      split at h
      · rcases List.mem_cons.1 h with rfl | h
        · simp
        · exact ⟨(ih h).1, fun x hx => List.mem_cons_of_mem c ((ih h).2 hx)⟩
      · rename_i hne
        cases hsplit : text.splitOn sep with
        | nil => exact absurd hsplit (List.splitOn_ne_nil sep text)
        | cons first rest =>
            rw [hsplit] at ih h
            rcases List.mem_cons.1 h with rfl | h
            · obtain ⟨hsep, hsub⟩ := ih List.mem_cons_self
              refine ⟨fun hmem => ?_, List.cons_subset_cons c hsub⟩
              rcases List.mem_cons.1 hmem with rfl | hmem
              · exact hne (beq_self_eq_true sep)
              · exact hsep hmem
            · obtain ⟨hsep, hsub⟩ := ih (List.mem_cons_of_mem first h)
              exact ⟨hsep, fun x hx => List.mem_cons_of_mem c (hsub hx)⟩

/-! ### The first separator -/

/-- **The text after the first separator is the suffix without the first label.** -/
theorem drop_idxOf {label next : List α} {labels : List (List α)} :
    ([sep].intercalate (label :: next :: labels)).drop (label.length + 1) =
      [sep].intercalate (next :: labels) := by
  rw [List.intercalate_cons_cons, List.append_assoc, List.drop_append, List.drop_of_length_le
    (Nat.le_succ _)]
  simp

section

variable [BEq α] [LawfulBEq α]

theorem idxOf?_append_cons {label rest : List α} (h : sep ∉ label) :
    (label ++ sep :: rest).idxOf? sep = some label.length := by
  induction label with
  | nil => rw [List.nil_append, List.idxOf?, List.findIdx?_cons, if_pos (beq_self_eq_true sep)]; rfl
  | cons a label ih =>
      have hne : ¬ (a == sep) = true := fun heq => h (List.mem_cons.2 (.inl (eq_of_beq heq).symm))
      have htail := ih (List.not_mem_of_not_mem_cons h)
      rw [List.idxOf?] at htail ⊢
      rw [List.cons_append, List.findIdx?_cons, if_neg hne, htail]
      rfl

/-- One label has no separator in it. -/
theorem idxOf?_singleton {label : List α} (h : sep ∉ label) :
    ([sep].intercalate [label]).idxOf? sep = none := by
  rw [List.intercalate_singleton]
  exact List.idxOf?_eq_none_iff.2 h

/-- The first separator of several labels stands after the first one. -/
theorem idxOf?_cons_cons {label next : List α} {labels : List (List α)} (h : sep ∉ label) :
    ([sep].intercalate (label :: next :: labels)).idxOf? sep = some label.length := by
  rw [List.intercalate_cons_cons, List.append_assoc]
  exact idxOf?_append_cons h

end

end Labels

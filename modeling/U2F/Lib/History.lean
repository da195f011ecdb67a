/-
**Histories.**

The history of an object is the list of what has been done with it and what it has done, in order.
What is to be done at a point of the history is told by what comes before it: a condition on an
entry and its past is kept along a history if it is kept by each entry that is added.

Often the past matters only since the last entry that began something, until another entry ends it;
and what matters of it is how many entries of some kind there were.

Main definitions:

* `History.Along` — every entry meets a condition on its past and itself;
* `History.CountedSince` — what has begun last, if nothing has ended it, and a count since then.

Main results:

* `History.along_concat_iff` — one more entry;
* `History.countedSince_concat_begin`, `History.not_countedSince_concat_end`,
  `History.countedSince_concat_iff` — the same for what has begun last;
* `History.CountedSince.unique` — there is at most one such beginning, and one count.
-/

import Mathlib.Data.List.Induction

set_option relaxedAutoImplicit false
set_option autoImplicit false

namespace History

variable {α β : Type*}

/-! ### A condition on every entry -/

/-- A history that ends with an entry, taken apart at one of its entries. -/
theorem concat_eq_append_cons_iff {history before after : List α} {e x : α} :
    history ++ [e] = before ++ x :: after ↔
      (before = history ∧ x = e ∧ after = []) ∨
        ∃ after', after = after' ++ [e] ∧ history = before ++ x :: after' := by
  constructor
  · intro h
    rcases List.eq_nil_or_concat after with rfl | ⟨after', e', rfl⟩
    · obtain ⟨hbefore, he⟩ := List.append_inj' h rfl
      exact .inl ⟨hbefore.symm, (List.singleton_inj.1 he).symm, rfl⟩
    · rw [List.concat_eq_append] at h ⊢
      have h' : history ++ [e] = (before ++ x :: after') ++ [e'] := by
        rw [h, List.append_assoc]
        rfl
      obtain ⟨hhistory, he⟩ := List.append_inj' h' rfl
      exact .inr ⟨after', by rw [List.singleton_inj.1 he], hhistory⟩
  · rintro (⟨rfl, rfl, rfl⟩ | ⟨after', rfl, rfl⟩)
    · rfl
    · rw [List.append_assoc]
      rfl

/-- Every entry meets a condition on its past and itself. -/
def Along (P : List α → α → Prop) (history : List α) : Prop :=
  ∀ before e after, history = before ++ e :: after → P before e

theorem along_nil (P : List α → α → Prop) : Along P [] := by
  intro before e after h
  exact absurd h (by simp)

/-- **One more entry.** -/
theorem along_concat_iff {P : List α → α → Prop} {history : List α} {e : α} :
    Along P (history ++ [e]) ↔ Along P history ∧ P history e := by
  constructor
  · intro h
    refine ⟨fun before x after heq => ?_, h history e [] rfl⟩
    exact h before x (after ++ [e]) (concat_eq_append_cons_iff.2 (.inr ⟨after, rfl, heq⟩))
  · rintro ⟨h, he⟩ before x after heq
    rcases concat_eq_append_cons_iff.1 heq with ⟨rfl, rfl, -⟩ | ⟨after', -, heq⟩
    · exact he
    · exact h before x after' heq

/-! ### What has begun last -/

variable (begins : α → Option β) (ends counts : α → Bool)

/-- The last entry that began something began `b`; since then nothing has ended it, and `n` entries
have been counted. -/
def CountedSince (history : List α) (b : β) (n : ℕ) : Prop :=
  ∃ before e after, history = before ++ e :: after ∧ begins e = some b ∧
    (∀ x ∈ after, begins x = none ∧ ends x = false) ∧ after.countP counts = n

variable {begins ends counts} {history : List α} {e : α} {b b' : β} {n n' : ℕ}

theorem not_countedSince_nil : ¬ CountedSince begins ends counts [] b n := by
  rintro ⟨before, e, after, h, -⟩
  exact absurd h (by simp)

/-- An entry that begins something. -/
theorem countedSince_concat_begin (he : begins e = some b) :
    CountedSince begins ends counts (history ++ [e]) b' n ↔ b' = b ∧ n = 0 := by
  constructor
  · rintro ⟨before, x, after, heq, hx, hafter, hn⟩
    rcases concat_eq_append_cons_iff.1 heq with ⟨-, rfl, rfl⟩ | ⟨after', rfl, -⟩
    · exact ⟨Option.some_inj.1 (hx.symm.trans he), hn.symm⟩
    · have hnone := (hafter e (List.mem_append_right after' List.mem_cons_self)).1
      cases he.symm.trans hnone
  · rintro ⟨rfl, rfl⟩
    refine ⟨history, e, [], rfl, he, ?_, rfl⟩
    intro x hx
    cases hx

/-- An entry that ends it. -/
theorem not_countedSince_concat_end (he : begins e = none) (hends : ends e = true) :
    ¬ CountedSince begins ends counts (history ++ [e]) b n := by
  rintro ⟨before, x, after, heq, hx, hafter, -⟩
  rcases concat_eq_append_cons_iff.1 heq with ⟨-, rfl, -⟩ | ⟨after', rfl, -⟩
  · cases he.symm.trans hx
  · have hfalse := (hafter e (List.mem_append_right after' List.mem_cons_self)).2
    cases hends.symm.trans hfalse

/-- **Any other entry** is counted, or makes no difference. -/
theorem countedSince_concat_iff (he : begins e = none) (hends : ends e = false) :
    CountedSince begins ends counts (history ++ [e]) b n ↔
      ∃ m, n = m + (if counts e then 1 else 0) ∧ CountedSince begins ends counts history b m := by
  constructor
  · rintro ⟨before, x, after, heq, hx, hafter, hn⟩
    rcases concat_eq_append_cons_iff.1 heq with ⟨-, rfl, -⟩ | ⟨after', rfl, hsplit⟩
    · cases he.symm.trans hx
    · rw [List.countP_append, List.countP_singleton] at hn
      refine ⟨after'.countP counts, hn.symm, before, x, after', hsplit, hx, fun y hy => ?_, rfl⟩
      exact hafter y (List.mem_append_left [e] hy)
  · rintro ⟨m, rfl, before, x, after, rfl, hx, hafter, rfl⟩
    refine ⟨before, x, after ++ [e], List.append_assoc _ _ _, hx, fun y hy => ?_, ?_⟩
    · rcases List.mem_append.1 hy with hy | hy
      · exact hafter y hy
      · obtain rfl := List.mem_singleton.1 hy
        exact ⟨he, hends⟩
    · rw [List.countP_append, List.countP_singleton]

/-- There is at most one such beginning, and one count. -/
theorem CountedSince.unique (h : CountedSince begins ends counts history b n)
    (h' : CountedSince begins ends counts history b' n') : b = b' ∧ n = n' := by
  induction history using List.reverseRecOn generalizing n n' with
  | nil => exact absurd h not_countedSince_nil
  | append_singleton history e ih =>
      cases hbegins : begins e with
      | some b₀ =>
          obtain ⟨rfl, rfl⟩ := (countedSince_concat_begin hbegins).1 h
          obtain ⟨rfl, rfl⟩ := (countedSince_concat_begin hbegins).1 h'
          exact ⟨rfl, rfl⟩
      | none =>
          cases hends : ends e with
          | true => exact absurd h (not_countedSince_concat_end hbegins hends)
          | false =>
              obtain ⟨m, rfl, hold⟩ := (countedSince_concat_iff hbegins hends).1 h
              obtain ⟨m', rfl, hold'⟩ := (countedSince_concat_iff hbegins hends).1 h'
              obtain ⟨hb, hm⟩ := ih hold hold'
              exact ⟨hb, by rw [hm]⟩

end History

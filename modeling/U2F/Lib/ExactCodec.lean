/-
**Codecs that are exact.**

A format has valid messages and a layout, which says what byte strings it is made of.  A codec of
the format is exact if its encoder and its decoder are inverse to each other between the valid
messages and the byte strings of the layout, and everything else is refused.  All of this follows
from one equivalence, between what a byte string decodes to and what it is the encoding of.

Main definitions:

* `ExactCodec` — the codec is exact, and how it refuses;
* `PrefixFree` — nothing can be added to a byte string of the layout, or left out at its end.

Main results:

* `ExactCodec.of_decode_iff` — **an encoder and a decoder with the same graph are exact**;
* `ExactCodec.refuses_extension`, `ExactCodec.refuses_truncation` — an exact codec of a prefix-free
  layout refuses both.
-/

import Mathlib.Data.Nat.Notation

set_option relaxedAutoImplicit false
set_option autoImplicit false

variable {ε M : Type}

/-- The encoder and the decoder are inverse to each other between the valid messages and the byte
strings of the layout; other byte strings are refused, with such an error. -/
structure ExactCodec (valid : M → Prop) (layout : List UInt8 → Prop)
    (encode : M → Except ε (List UInt8)) (decode : List UInt8 → Except ε M)
    (refusal : ε → Prop) : Prop where
  decode_encode : ∀ m, valid m → ∃ b, encode m = .ok b ∧ decode b = .ok m
  encode_decode : ∀ b m, decode b = .ok m → valid m ∧ encode m = .ok b
  accepts_iff : ∀ b, (∃ m, decode b = .ok m) ↔ layout b
  refuses : ∀ b, ¬ layout b → ∃ e, decode b = .error e ∧ refusal e

/-- Nothing can be added to a byte string of the layout, or left out at its end. -/
def PrefixFree (layout : List UInt8 → Prop) : Prop :=
  ∀ b c, layout b → layout (b ++ c) → c = []

namespace ExactCodec

variable {valid : M → Prop} {layout : List UInt8 → Prop} {encode : M → Except ε (List UInt8)}
  {decode : List UInt8 → Except ε M} {refusal : ε → Prop}

/-- **An encoder and a decoder with the same graph are exact.** -/
theorem of_decode_iff (hdecode : ∀ b m, decode b = .ok m ↔ valid m ∧ encode m = .ok b)
    (hencode : ∀ m, valid m → ∃ b, encode m = .ok b)
    (hlayout : ∀ b, layout b ↔ ∃ m, valid m ∧ encode m = .ok b)
    (herror : ∀ b e, decode b = .error e → refusal e) :
    ExactCodec valid layout encode decode refusal where
  decode_encode m hm := by
    obtain ⟨b, hb⟩ := hencode m hm
    exact ⟨b, hb, (hdecode b m).2 ⟨hm, hb⟩⟩
  encode_decode b m h := (hdecode b m).1 h
  accepts_iff b := by simp only [hdecode, hlayout]
  refuses b hb := by
    rcases h : decode b with e | m
    · exact ⟨e, rfl, herror b e h⟩
    · exact absurd ((hlayout b).2 ⟨m, (hdecode b m).1 h⟩) hb

variable (h : ExactCodec valid layout encode decode refusal) (hfree : PrefixFree layout)
  {b c : List UInt8} (hc : c ≠ [])
include h hfree hc

theorem refuses_extension (hb : ∃ m, decode b = .ok m) :
    ∃ e, decode (b ++ c) = .error e ∧ refusal e :=
  h.refuses _ fun hbc => hc (hfree b c ((h.accepts_iff b).1 hb) hbc)

theorem refuses_truncation (hbc : ∃ m, decode (b ++ c) = .ok m) :
    ∃ e, decode b = .error e ∧ refusal e :=
  h.refuses _ fun hb => hc (hfree b c hb ((h.accepts_iff _).1 hbc))

end ExactCodec

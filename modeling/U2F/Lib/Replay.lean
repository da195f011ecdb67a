/-
**Sequences of messages on one stream.**

A sender appends the bytes of a message to an output stream, a receiver takes a message from an
input stream.  If each message is replayed, whatever has been written before it and whatever
follows it, then a sequence of messages is replayed: a receiver stops where its message ends, and
the next one starts there.

Main definitions:

* `Sends` — the bytes that a sender writes for a message;
* `Replays` — what is written for a message is read back, and nothing more.

Main results:

* `Replays.sequence` — **a sequence of messages is replayed in order**.
-/

import U2F.Lib.ByteStream

set_option relaxedAutoImplicit false
set_option autoImplicit false

variable {ε M : Type}

/-- The sender writes these bytes, after what has been written before. -/
def Sends (send : Call (List UInt8) ε Unit) (written : List UInt8) : Prop :=
  ∀ out, send.Returns out () (out ++ written)

/-- What is written for the message is read back, and nothing more. -/
def Replays (send : Call (List UInt8) ε Unit) (receive : ByteStream ε M) (m : M) : Prop :=
  ∃ written, Sends send written ∧ ∀ rest, receive.run (written ++ rest) = .ok (m, rest)

namespace Sends

theorem nothing : Sends (pure () : Call (List UInt8) ε Unit) [] := fun out =>
  Call.returns_pure_iff.2 ⟨rfl, (List.append_nil out).symm⟩

theorem bind {x y : Call (List UInt8) ε Unit} {front back : List UInt8} (hx : Sends x front)
    (hy : Sends y back) : Sends (x >>= fun _ => y) (front ++ back) := fun out =>
  Call.returns_bind_iff.2 ⟨(), out ++ front, hx out, by
    rw [← List.append_assoc]
    exact hy (out ++ front)⟩

end Sends

/-- **A sequence of messages is replayed in order.** -/
theorem Replays.sequence {send : M → Call (List UInt8) ε Unit} {receive : M → ByteStream ε M}
    {messages : List M} (h : ∀ m ∈ messages, Replays (send m) (receive m) m) :
    ∃ written, Sends (messages.forM send) written ∧
      ∀ rest, (messages.mapM receive).run (written ++ rest) = .ok (messages, rest) := by
  induction messages with
  | nil => exact ⟨[], Sends.nothing, fun rest => rfl⟩
  | cons m messages ih =>
      obtain ⟨front, hsend, hreceive⟩ := h m List.mem_cons_self
      obtain ⟨back, hsends, hreceives⟩ := ih fun m' hm' => h m' (List.mem_cons_of_mem m hm')
      refine ⟨front ++ back, hsend.bind hsends, fun rest => ?_⟩
      · -- the first message is read, and the others start where it ends
        rw [List.mapM_cons, List.append_assoc, ByteStream.run_bind_eq_ok_iff]
        refine ⟨m, back ++ rest, hreceive (back ++ rest), ?_⟩
        rw [ByteStream.run_bind_eq_ok_iff]
        exact ⟨messages, rest, hreceives rest, rfl⟩

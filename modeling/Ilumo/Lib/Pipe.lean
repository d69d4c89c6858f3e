import Ilumo.Lib.Bytes

/-!
# Messages over a stream of bytes

A message is written behind its length, a little-endian word of four bytes, into a stream that hands
over its bytes in pieces of any size. `Carries` says which messages are on their way; it does not
change while bytes arrive, and a reader that waits for a whole message takes the first of them.
-/

open Bytes

/-- The bytes that have been written, and those of them that have arrived and are not yet read. -/
structure Pipe where
  flight : List UInt8 := []
  buffer : List UInt8 := []
  deriving DecidableEq, Repr

namespace Pipe

def framed (bytes : List UInt8) : List UInt8 := leBytes 4 bytes.length ++ bytes

def write (pipe : Pipe) (bytes : List UInt8) : Pipe :=
  { pipe with flight := pipe.flight ++ framed bytes }

/-- `n` bytes more arrive. -/
def deliver (pipe : Pipe) (n : Nat) : Pipe where
  flight := pipe.flight.drop n
  buffer := pipe.buffer ++ pipe.flight.take n

/-- The length that the next four bytes spell. -/
def size (pipe : Pipe) : Nat := leValue (slice pipe.buffer 0 4)

/-- The next message, once it is there as a whole. -/
def read? (pipe : Pipe) : Option (List UInt8 × Pipe) :=
  if 4 + pipe.size ≤ pipe.buffer.length then
    some (slice pipe.buffer 4 pipe.size, { pipe with buffer := pipe.buffer.drop (4 + pipe.size) })
  else none

/-- What is left of the stream are these messages. -/
structure Carries (pipe : Pipe) (messages : List (List UInt8)) : Prop where
  bytes : pipe.buffer ++ pipe.flight = messages.flatMap framed
  length_lt : ∀ message ∈ messages, message.length < 2 ^ 32

variable {pipe pipe' : Pipe} {message : List UInt8} {messages : List (List UInt8)}

theorem carries_nil : Carries {} [] := ⟨rfl, by simp⟩

theorem Carries.write (h : Carries pipe messages) (hlength : message.length < 2 ^ 32) :
    Carries (pipe.write message) (messages ++ [message]) := by
  refine ⟨?_, ?_⟩
  · rw [Pipe.write, ← List.append_assoc, h.bytes, List.flatMap_append, List.flatMap_singleton]
  · intro other hother
    rcases List.mem_append.mp hother with hother | hother
    · exact h.length_lt other hother
    · exact List.mem_singleton.mp hother ▸ hlength

theorem Carries.deliver (h : Carries pipe messages) (n : Nat) :
    Carries (pipe.deliver n) messages := by
  refine ⟨?_, h.length_lt⟩
  rw [Pipe.deliver, List.append_assoc, List.take_append_drop, h.bytes]

theorem Carries.size_eq (h : Carries pipe (message :: messages)) (hword : 4 ≤ pipe.buffer.length) :
    pipe.size = message.length := by
  have hslice : slice pipe.buffer 0 4 = leBytes 4 message.length := by
    rw [← slice_append_left pipe.flight (by omega), h.bytes, List.flatMap_cons, framed,
      List.append_assoc, slice, List.drop_zero, List.take_left' (length_leBytes _ _)]
  rw [size, hslice, leValue_leBytes]
  exact Nat.mod_eq_of_lt (h.length_lt message (by simp))

/-- The first message is read as soon as all of it is there. -/
theorem Carries.read?_cons (h : Carries pipe (message :: messages)) :
    pipe.read? =
      if 4 + message.length ≤ pipe.buffer.length then
        some (message, { pipe with buffer := pipe.buffer.drop (4 + message.length) })
      else none := by
  by_cases hword : 4 ≤ pipe.buffer.length
  · rw [read?, h.size_eq hword]
    split
    · next hall =>
        have hslice : slice pipe.buffer 4 message.length = message := by
          rw [← slice_append_left pipe.flight hall, h.bytes, List.flatMap_cons, framed,
            List.append_assoc, slice, List.drop_left' (length_leBytes _ _), List.take_left]
        rw [hslice]
    · rfl
  · rw [read?, if_neg (by omega), if_neg (by omega)]

theorem Carries.read?_nil (h : Carries pipe []) : pipe.read? = none := by
  have hempty : pipe.buffer = [] := (List.append_eq_nil_iff.mp h.bytes).1
  rw [read?, if_neg (by simp [hempty])]

/-- What is read is the first of the messages, and the others are still on their way. -/
theorem Carries.read (h : Carries pipe messages) (hread : pipe.read? = some (message, pipe')) :
    ∃ rest, messages = message :: rest ∧ Carries pipe' rest := by
  cases messages with
  | nil =>
      rw [h.read?_nil] at hread
      exact absurd hread (by simp)
  | cons first rest =>
      rw [h.read?_cons] at hread
      split at hread
      · next hall =>
          obtain ⟨rfl, rfl⟩ := Prod.mk.inj (Option.some_inj.mp hread)
          refine ⟨rest, rfl, ?_, fun other hother => h.length_lt other (by simp [hother])⟩
          have hbytes := congrArg (List.drop (4 + first.length)) h.bytes
          rw [List.drop_append_of_le_length hall, List.flatMap_cons] at hbytes
          rw [hbytes, List.drop_left' (by simp [framed])]
      · exact absurd hread (by simp)

/-- When all bytes have arrived the first message can be read. -/
theorem Carries.exists_read (h : Carries pipe (message :: messages)) (hflight : pipe.flight = []) :
    ∃ pipe', pipe.read? = some (message, pipe') ∧ pipe'.flight = [] := by
  have hall : 4 + message.length ≤ pipe.buffer.length := by
    have hbytes := congrArg List.length h.bytes
    rw [hflight, List.append_nil, List.flatMap_cons, framed, List.length_append, List.length_append,
      length_leBytes] at hbytes
    omega
  rw [h.read?_cons, if_pos hall]
  exact ⟨_, rfl, hflight⟩

end Pipe

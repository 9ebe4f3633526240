/-!
Decoders as machines over bytes.

A machine takes one byte at a time and says which characters that byte completes; at the end of the
input it says what becomes of a sequence that was cut off. How the bytes are cut into reads is
invisible to it: feeding two parts one after the other is feeding their concatenation
(`feed_append`).
-/
namespace BulkLoad.Encoding

structure Machine where
  State : Type
  start : State
  /-- The state after a byte, and the characters that the byte completes. -/
  step : State → UInt8 → State × List Char
  finish : State → List Char

namespace Machine

/-- The state after the bytes; the characters they complete are put, last one first, before
`done`. -/
def feedOnto (m : Machine) (s : m.State) (done : List Char) : List UInt8 → m.State × List Char
  | [] => (s, done)
  | b :: rest => m.feedOnto (m.step s b).1 ((m.step s b).2.reverse ++ done) rest

def feed (m : Machine) (s : m.State) (bytes : List UInt8) : m.State × List Char :=
  ((m.feedOnto s [] bytes).1, (m.feedOnto s [] bytes).2.reverse)

def decode (m : Machine) (bytes : List UInt8) : List Char :=
  (m.feed m.start bytes).2 ++ m.finish (m.feed m.start bytes).1

theorem feedOnto_eq (m : Machine) (s : m.State) (done : List Char) (bytes : List UInt8) :
    m.feedOnto s done bytes = ((m.feed s bytes).1, (m.feed s bytes).2.reverse ++ done) := by
  induction bytes generalizing s done with
  | nil => simp [feed, feedOnto]
  | cons b rest ih =>
    simp only [feed, feedOnto]
    rw [ih, ih (m.step s b).1 ((m.step s b).2.reverse ++ [])]
    simp

@[simp]
theorem feed_nil (m : Machine) (s : m.State) : m.feed s [] = (s, []) := rfl

theorem feed_cons (m : Machine) (s : m.State) (b : UInt8) (rest : List UInt8) :
    m.feed s (b :: rest) =
      ((m.feed (m.step s b).1 rest).1, (m.step s b).2 ++ (m.feed (m.step s b).1 rest).2) := by
  conv => lhs; unfold feed
  rw [feedOnto, feedOnto_eq]
  simp

/-- Cutting the input into parts changes neither the final state nor the text. -/
theorem feed_append (m : Machine) (s : m.State) (xs ys : List UInt8) :
    m.feed s (xs ++ ys) =
      ((m.feed (m.feed s xs).1 ys).1, (m.feed s xs).2 ++ (m.feed (m.feed s xs).1 ys).2) := by
  induction xs generalizing s with
  | nil => simp
  | cons b rest ih => simp [feed_cons, ih]

end Machine

end BulkLoad.Encoding

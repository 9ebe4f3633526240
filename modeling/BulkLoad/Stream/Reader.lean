/-!
Byte streams as they arrive: a content that is handed out read by read.

A reader says how much each read may return and, if it breaks at some point, after how many bytes
and why. Reading it to its end gives a feed: the pieces that arrived, and the failure if one ended
them.
-/
namespace BulkLoad.Stream

structure Break where
  after : Nat
  message : String
  deriving DecidableEq, Repr

structure Reader where
  rest : List UInt8
  delivered : Nat
  /-- How much the coming reads may return; the last size holds for all later ones, and without any
  a read returns as much as fits. -/
  sizes : List Nat
  fault : Option Break
  deriving Repr

/-- What a read gives: bytes, none of them at the end, or a failure. -/
abbrev Answer := Except String (List UInt8)

namespace Reader

def ofBytes (bytes : List UInt8) : Reader := ⟨bytes, 0, [], none⟩

def laterSizes : List Nat → List Nat
  | _ :: next :: later => next :: later
  | sizes => sizes

def allowance (r : Reader) (room : Nat) : Nat :=
  let scheduled := (r.sizes.head?.map (min room)).getD room
  match r.fault with
  | some fault => min scheduled (fault.after - r.delivered)
  | none => scheduled

def failure? (r : Reader) : Option String :=
  match r.fault with
  | some fault => if fault.after ≤ r.delivered then some fault.message else none
  | none => none

def advance (r : Reader) (n : Nat) : Reader :=
  { r with rest := r.rest.drop n, delivered := r.delivered + n, sizes := laterSizes r.sizes }

def read (r : Reader) (room : Nat) : Answer × Reader :=
  match r.failure? with
  | some message => (.error message, r)
  | none =>
    let bytes := r.rest.take (r.allowance room)
    (.ok bytes, r.advance bytes.length)

end Reader

/-- All that arrived from a stream: the pieces in order, none of them empty, and how it failed if it
did. -/
structure Feed where
  pieces : List (List UInt8)
  failure : Option String
  deriving DecidableEq, Repr

namespace Feed

def cons (piece : List UInt8) (f : Feed) : Feed :=
  if piece.isEmpty then f else { f with pieces := piece :: f.pieces }

def bytes (f : Feed) : List UInt8 := f.pieces.flatten

end Feed

/-- All that arrives from a reader when every read has room for so many bytes. Each read takes at
least a byte or is the last, so as many reads as there are bytes, and one more, suffice. -/
def Reader.feedWithin (room : Nat) : Nat → Reader → Feed
  | 0, _ => ⟨[], none⟩
  | reads + 1, r =>
    match r.read room with
    | (.error message, _) => ⟨[], some message⟩
    | (.ok [], _) => ⟨[], none⟩
    | (.ok bytes, r) => (feedWithin room reads r).cons bytes

def Reader.feed (r : Reader) (room : Nat) : Feed := r.feedWithin room (r.rest.length + 1)

def Feed.answers (f : Feed) : List Answer :=
  f.pieces.map .ok ++ (f.failure.map .error).toList

end BulkLoad.Stream

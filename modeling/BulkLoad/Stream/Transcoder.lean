import BulkLoad.Encoding.Decoder
import BulkLoad.Stream.Reader

/-!
Reading a stream in some encoding as UTF-8.

A transcoder asks the inner stream for a piece whenever it has nothing to hand out, decodes it as
far as it goes, and hands out the UTF-8 of the text in parts that fit the caller's room. A failed
read of the inner stream changes nothing else.
-/
namespace BulkLoad.Stream

open Encoding (Sniffing Utf8.encode)

variable [Encoding.EastAsian.Decoders]

structure Transcoder where
  encoding : Encoding
  /-- The answers that the inner stream will give; after them it is at its end. -/
  inner : List Answer
  state : Sniffing
  /-- What the last piece came to, of which the bytes up to `position` are handed out. -/
  output : List UInt8
  position : Nat
  finished : Bool
  within : position ≤ output.length

namespace Transcoder

def ofAnswers (encoding : Encoding) (inner : List Answer) : Transcoder :=
  ⟨encoding, inner, .undecided [], [], 0, false, Nat.le_refl 0⟩

def pending (t : Transcoder) : List UInt8 := t.output.drop t.position

def isSpent (t : Transcoder) : Bool := t.position == t.output.length

/-- The transcoder after some bytes of the inner stream, which will give the answers `inner`. -/
def fed (t : Transcoder) (bytes : List UInt8) (inner : List Answer) : Transcoder :=
  let (state, text) := t.encoding.decoder.feed t.state bytes
  { t with inner, state, output := Utf8.encode text, position := 0, within := Nat.zero_le _ }

/-- The transcoder at the end of the inner stream, which will give the answers `inner`. -/
def closed (t : Transcoder) (inner : List Answer) : Transcoder :=
  { t with
    inner
    output := Utf8.encode (Sniffing.finish t.encoding t.state)
    position := 0
    finished := true
    within := Nat.zero_le _ }

def handOut (t : Transcoder) (room : Nat) : Answer × Transcoder :=
  let size := min (t.output.length - t.position) room
  (.ok (t.pending.take room),
    { t with
      position := t.position + size
      within := Nat.add_le_of_le_sub' t.within (Nat.min_le_left _ _) })

def readFrom (room : Nat) (t : Transcoder) : List Answer → Answer × Transcoder
  | [] => (t.closed []).handOut room
  | .error message :: rest => (.error message, { t with inner := rest })
  | .ok [] :: rest => (t.closed rest).handOut room
  | .ok bytes :: rest =>
    let t := t.fed bytes rest
    if t.isSpent then readFrom room t rest else t.handOut room

/-- Reads once, into a room for so many bytes. An answer without bytes is the end. -/
def read (t : Transcoder) (room : Nat) : Answer × Transcoder :=
  if !t.isSpent || t.finished then t.handOut room else readFrom room t t.inner

end Transcoder

/-- What a transcoder over a feed hands out, a piece for each piece that completes some text. -/
def Feed.transcodeFrom (encoding : Encoding) (failure : Option String) (state : Sniffing) :
    List (List UInt8) → Feed
  | [] =>
    match failure with
    | some message => ⟨[], some message⟩
    | none => (Feed.mk [] none).cons (Utf8.encode (Sniffing.finish encoding state))
  | piece :: rest =>
    let (state, text) := encoding.decoder.feed state piece
    (transcodeFrom encoding failure state rest).cons (Utf8.encode text)

def Feed.transcode (f : Feed) (encoding : Encoding) : Feed :=
  transcodeFrom encoding f.failure (.undecided []) f.pieces

end BulkLoad.Stream

/-!
The parts of a sample that are looked at when letters are counted.
-/
namespace BulkLoad.Charset.Words

def isLetter (b : UInt8) : Bool :=
  (0x41 ≤ b && b ≤ 0x5A) || (0x61 ≤ b && b ≤ 0x7A)

def isForeign (b : UInt8) : Bool := 0x80 ≤ b

/-- Whether a byte tells a sample from ASCII text, in which a no-break space is common. -/
def isTelling (b : UInt8) : Bool := isForeign b && b != 0xA0

def space : UInt8 := 0x20

/-- The words with a byte outside ASCII, each with a space in place of what ends it. `word` is the
current word backwards, `done` what was kept, backwards. -/
def foreignFrom (word done : List UInt8) : List UInt8 → List UInt8
  | [] => (if word.any isForeign then word ++ done else done).reverse
  | b :: rest =>
    if isLetter b || isForeign b then foreignFrom (b :: word) done rest
    else foreignFrom [] (if word.any isForeign then space :: (word ++ done) else done) rest

def foreign (sample : List UInt8) : List UInt8 := foreignFrom [] [] sample

/-- The bytes outside ASCII, with one space for each stretch of others. -/
def foreignOnlyFrom (spaced : Bool) : List UInt8 → List UInt8
  | [] => []
  | b :: rest =>
    if isForeign b then b :: foreignOnlyFrom false rest
    else if spaced then foreignOnlyFrom true rest
    else space :: foreignOnlyFrom true rest

def foreignOnly (sample : List UInt8) : List UInt8 := foreignOnlyFrom false sample

/-- The words that do not end inside a tag, each with a space after it; `inTag` says whether an
opening bracket came last. -/
def untaggedFrom (inTag : Bool) (word done : List UInt8) : List UInt8 → List UInt8
  | [] => (if inTag then done else word ++ done).reverse
  | b :: rest =>
    let inTag := if b == 0x3E then false else if b == 0x3C then true else inTag
    if isLetter b || isForeign b then untaggedFrom inTag (b :: word) done rest
    else
      let done := if word.isEmpty || inTag then done else space :: (word ++ done)
      untaggedFrom inTag [] done rest

def untagged (sample : List UInt8) : List UInt8 := untaggedFrom false [] [] sample

end BulkLoad.Charset.Words

import JournalHerald.Text

/-!
# Reading UTF-8

The characters that bytes stand for, read byte by byte. What is read may end inside a character and go on
with the next block of bytes.

* `Utf8.State` is where the reading stands, `Utf8.step?` reads one byte;
* `Utf8.readBlock?` reads a block, of which nothing is had if a byte in it does not fit;
* `Utf8.readBlocks` reads blocks up to the first one with such a byte.
-/

namespace JournalHerald.Utf8

/-- Where the reading of bytes stands. -/
inductive State where
  /-- Between two characters. -/
  | between
  /-- Inside a character of which `owed` more bytes are to come, the next one from `low` to `high`. The bits
  read so far make up `value`. -/
  | inside (value owed low high : Nat)
  deriving DecidableEq, Repr

/-- Read the first byte of a character. -/
def first? (b : Nat) : Option (State × Text) :=
  if b < 0x80 then some (.between, [.ofNat b])
  else if 0xC2 ≤ b ∧ b ≤ 0xDF then some (.inside (b - 0xC0) 1 0x80 0xBF, [])
  else if b = 0xE0 then some (.inside 0 2 0xA0 0xBF, [])
  else if 0xE1 ≤ b ∧ b ≤ 0xEF then some (.inside (b - 0xE0) 2 0x80 0xBF, [])
  else if b = 0xF0 then some (.inside 0 3 0x90 0xBF, [])
  else if 0xF1 ≤ b ∧ b ≤ 0xF3 then some (.inside (b - 0xF0) 3 0x80 0xBF, [])
  else if b = 0xF4 then some (.inside 4 3 0x80 0x8F, [])
  else none

/-- Read one byte: where the reading then stands, and the character that the byte completes. A surrogate is
refused once it is complete. -/
def step? (state : State) (b : Nat) : Option (State × Text) :=
  match state with
  | .between => first? b
  | .inside value owed low high =>
    let value := value * 64 + (b - 0x80)
    if b < low ∨ high < b then none
    else if 1 < owed then some (.inside value (owed - 1) 0x80 0xBF, [])
    else if (CodePoint.ofNat value).isSurrogate then none
    else some (.between, [.ofNat value])

/-- Read a block of bytes: where the reading then stands, and the characters completed. -/
def readBlock? (state : State) : List UInt8 → Option (State × Text)
  | [] => some (state, [])
  | b :: rest => do
    let (state, done) ← step? state b.toNat
    let (state, more) ← readBlock? state rest
    return (state, done ++ more)

/-- What has been read of bytes, and whether there is more that cannot be read. -/
structure Reading where
  text : Text
  broken : Bool
  deriving DecidableEq, Repr

/-- Read blocks of bytes one after the other up to the first one with a byte that does not fit, or to an end
inside a character. -/
def readBlocks (state : State) : List (List UInt8) → Reading
  | [] => ⟨[], state != .between⟩
  | block :: rest =>
    match readBlock? state block with
    | none => ⟨[], true⟩
    | some (state, text) =>
      let reading := readBlocks state rest
      { reading with text := text ++ reading.text }

/-- Cut bytes into blocks of a length, the last one of which may be shorter. -/
def blocks (size : Nat) (bytes : List UInt8) : List (List UInt8) :=
  if bytes.isEmpty ∨ size = 0 then []
  else bytes.take size :: blocks size (bytes.drop size)
termination_by bytes.length
decreasing_by
  cases bytes <;> simp_all
  omega

end JournalHerald.Utf8

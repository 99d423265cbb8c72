import TunnelBoard.Compression.Code

/-!
# Blocks

Data is compressed in blocks.  A block is stored as it is, or it is a sequence
of elements with codes that are fixed or stand at its start.  An element is a
byte, a copy of bytes that came some distance before, or the end of the block.
-/

namespace TunnelBoard
namespace Compression

/-!
# Elements
-/

/-- Consecutive numbers: a first one, and the number of bits that tell them apart. -/
structure Span where
  first : Nat
  bits : Nat

def lengthSpans : List Span :=
  [⟨3, 0⟩, ⟨4, 0⟩, ⟨5, 0⟩, ⟨6, 0⟩, ⟨7, 0⟩, ⟨8, 0⟩, ⟨9, 0⟩, ⟨10, 0⟩, ⟨11, 1⟩, ⟨13, 1⟩, ⟨15, 1⟩,
    ⟨17, 1⟩, ⟨19, 2⟩, ⟨23, 2⟩, ⟨27, 2⟩, ⟨31, 2⟩, ⟨35, 3⟩, ⟨43, 3⟩, ⟨51, 3⟩, ⟨59, 3⟩, ⟨67, 4⟩,
    ⟨83, 4⟩, ⟨99, 4⟩, ⟨115, 4⟩, ⟨131, 5⟩, ⟨163, 5⟩, ⟨195, 5⟩, ⟨227, 5⟩, ⟨258, 0⟩]

def distanceSpans : List Span :=
  [⟨1, 0⟩, ⟨2, 0⟩, ⟨3, 0⟩, ⟨4, 0⟩, ⟨5, 1⟩, ⟨7, 1⟩, ⟨9, 2⟩, ⟨13, 2⟩, ⟨17, 3⟩, ⟨25, 3⟩, ⟨33, 4⟩,
    ⟨49, 4⟩, ⟨65, 5⟩, ⟨97, 5⟩, ⟨129, 6⟩, ⟨193, 6⟩, ⟨257, 7⟩, ⟨385, 7⟩, ⟨513, 8⟩, ⟨769, 8⟩,
    ⟨1025, 9⟩, ⟨1537, 9⟩, ⟨2049, 10⟩, ⟨3073, 10⟩, ⟨4097, 11⟩, ⟨6145, 11⟩, ⟨8193, 12⟩,
    ⟨12289, 12⟩, ⟨16385, 13⟩, ⟨24577, 13⟩]

inductive Element where
  | byte (b : UInt8)
  | copy (length distance : Nat)
  | ending

/-- The codes of a block: for bytes, lengths and the end, and for distances. -/
structure Codes where
  literals : Code
  distances : Code

def endSymbol : Nat := 256

def Span.read (span : Span) : Reader Nat := do
  let n ← Reader.number span.bits
  pure (span.first + n)

/-- Reads a number of one of some spans with a code for them. -/
def readSpan (spans : List Span) (flaw : Flaw) (symbol : Option Nat) : Reader Nat :=
  match symbol.bind fun s => spans[s]? with
  | some span => span.read
  | none => Reader.fail flaw

def Codes.readElement (codes : Codes) : Reader Element := do
  match ← codes.literals.read with
  | none => Reader.fail .literal
  | some symbol =>
      if symbol < endSymbol then pure (.byte (.ofNat symbol))
      else if symbol = endSymbol then pure .ending
      else do
        let length ← readSpan lengthSpans .literal (some (symbol - endSymbol - 1))
        let distance ← readSpan distanceSpans .distance (← codes.distances.read)
        pure (.copy length distance)

/-!
# Codes of blocks
-/

/-- The codes of blocks without codes of their own. -/
def fixedCodes : Codes :=
  { literals :=
      Code.ofLengths
        (List.replicate 144 8 ++ List.replicate 112 9 ++ List.replicate 24 7 ++ List.replicate 8 8)
    distances := Code.ofLengths (List.replicate 32 5) }

/-- The symbols for lengths of codes in the order in which their own lengths are given. -/
def lengthOrder : List Nat := [16, 17, 18, 0, 8, 7, 9, 6, 10, 5, 11, 4, 12, 3, 13, 2, 14, 1, 15]

/-- The code for lengths of codes, given the lengths of its codes in their order. -/
def lengthCode (given : List Nat) : Code :=
  Code.ofLengths ((List.range 19).map fun symbol =>
    ((lengthOrder.zip given).lookup symbol).getD 0)

/-- Reads the lengths that a symbol stands for, given the length before. -/
def readRun (before : Option Nat) (symbol : Nat) : Reader (List Nat) :=
  if symbol < 16 then pure [symbol]
  else if symbol = 16 then do
    let n ← Reader.number 2
    match before with
    | none => Reader.fail .lengthRepeat
    | some length => pure (List.replicate (3 + n) length)
  else if symbol = 17 then do
    let n ← Reader.number 3
    pure (List.replicate (3 + n) 0)
  else do
    let n ← Reader.number 7
    pure (List.replicate (11 + n) 0)

/--
Reads lengths of codes until there are `count` of them.  An empty code has one
code for no length.
-/
def readLengths (code : Code) (count : Nat) : Nat → List Nat → Reader (List Nat)
  | 0, lengths => pure lengths
  | fuel + 1, lengths =>
      if count ≤ lengths.length then pure lengths
      else do
        let symbol ← code.read
        let run ← readRun lengths.getLast? (symbol.getD 0)
        let lengths := lengths ++ run
        if count < lengths.length then Reader.fail .lengthRepeat
        else readLengths code count fuel lengths

def readCodes : Reader Codes := do
  let literalCount ← Reader.number 5
  let distanceCount ← Reader.number 5
  let lengthCount ← Reader.number 4
  let literalCount := literalCount + 257
  let distanceCount := distanceCount + 1
  if 286 < literalCount || 30 < distanceCount then Reader.fail .symbolCount
  else do
    let given ← Reader.numbers 3 (lengthCount + 4)
    let code := lengthCode given
    if !(code.isComplete || code.isEmpty) then Reader.fail .codeLengths
    else do
      let count := literalCount + distanceCount
      let lengths ← readLengths code count count []
      let literals := Code.ofLengths (lengths.take literalCount)
      let distances := Code.ofLengths (lengths.drop literalCount)
      if (lengths.getD endSymbol 0) = 0 then Reader.fail .missingEnd
      else if !literals.isUsable then Reader.fail .literalLengths
      else if !distances.isUsable then Reader.fail .distanceLengths
      else pure { literals, distances }

/-!
# Blocks
-/

/-- What has been read: bytes, and the bits behind them unless the bits ended too early. -/
structure Inflated where
  bytes : Array UInt8
  rest : Option Bits

/-- Adds a copy of bytes that came some distance before. -/
def copy (distance : Nat) : Nat → Array UInt8 → Array UInt8
  | 0, bytes => bytes
  | length + 1, bytes => copy distance length (bytes.push (bytes.getD (bytes.size - distance) 0))

/-- Reads the elements of a block up to its end. -/
def inflateElements (codes : Codes) : Nat → Array UInt8 → Bits → Except Flaw Inflated
  | 0, bytes, _ => .ok ⟨bytes, none⟩
  | fuel + 1, bytes, bits =>
      match codes.readElement bits with
      | .flawed flaw => .error flaw
      | .ended => .ok ⟨bytes, none⟩
      | .done .ending rest => .ok ⟨bytes, some rest⟩
      | .done (.byte b) rest => inflateElements codes fuel (bytes.push b) rest
      | .done (.copy length distance) rest =>
          if bytes.size < distance then .error .distanceTooFar
          else inflateElements codes fuel (copy distance length bytes) rest

/-- Takes whole bytes from bits, at most a number of them. -/
def takeBytes : Nat → Array UInt8 → Bits → Inflated
  | 0, bytes, bits => ⟨bytes, some bits⟩
  | count + 1, bytes, bits =>
      match Reader.number 8 bits with
      | .done b rest => takeBytes count (bytes.push (.ofNat b)) rest
      | _ => ⟨bytes, none⟩

/-- Reads the length of a stored block, which is given twice. -/
def readStoredLength : Reader Nat := do
  Reader.align
  let length ← Reader.number 16
  let inverse ← Reader.number 16
  if length + inverse = 0xFFFF then pure length else Reader.fail .storedLengths

/-- Goes on with what was read, unless the bits ended. -/
def orEnded {α : Type} (bytes : Array UInt8) (r : Reading α)
    (next : α → Bits → Except Flaw Inflated) : Except Flaw Inflated :=
  match r with
  | .flawed flaw => .error flaw
  | .ended => .ok ⟨bytes, none⟩
  | .done a rest => next a rest

def inflateBlock (kind : Nat) (bytes : Array UInt8) (bits : Bits) : Except Flaw Inflated :=
  match kind with
  | 0 => orEnded bytes (readStoredLength bits) fun length rest => .ok (takeBytes length bytes rest)
  | 1 => inflateElements fixedCodes (bits.length + 1) bytes bits
  | 2 =>
      orEnded bytes (readCodes bits) fun codes rest =>
        inflateElements codes (rest.length + 1) bytes rest
  | _ => .error .blockKind

/-- Reads blocks up to the last one. -/
def inflateBlocks : Nat → Array UInt8 → Bits → Except Flaw Inflated
  | 0, bytes, _ => .ok ⟨bytes, none⟩
  | fuel + 1, bytes, bits =>
      orEnded bytes (Reader.number 3 bits) fun header rest => do
        let block ← inflateBlock (header / 2) bytes rest
        match block.rest with
        | none => pure block
        | some after =>
            if header % 2 = 1 then pure block else inflateBlocks fuel block.bytes after

/-- The bytes that bits stand for; every block has a bit at least. -/
def inflate (bits : Bits) : Except Flaw Inflated := inflateBlocks (bits.length + 1) #[] bits

end Compression
end TunnelBoard

import RouteProbe.Coding.Huffman

/-!
# Inflating

Compressed content is a row of blocks.  A block holds bytes as they are, or
symbols of a code that is fixed or given before them; a symbol is a byte, the end
of the block, or the length of a stretch to repeat, and then a second code tells
how far back the stretch began.

The content comes byte by byte.  Parts that are read bit by bit take the bits of a
byte from the lowest on; parts that are read byte by byte begin at the next byte,
and the bits before it are let go.
-/

namespace RouteProbe
namespace Coding

/-- Why content cannot be inflated. -/
inductive InflateError where
  | blockType
  | storedLengths
  | tooManySymbols
  | codeLengths
  | lengthRepeat
  | noEndOfBlock
  | literalLengths
  | distances
  | literalCode
  | distanceCode
  | distanceTooFar
  deriving Repr, DecidableEq

/-- The message of an error. -/
def InflateError.message : InflateError → String
  | .blockType => "invalid block type"
  | .storedLengths => "invalid stored block lengths"
  | .tooManySymbols => "too many length or distance symbols"
  | .codeLengths => "invalid code lengths set"
  | .lengthRepeat => "invalid bit length repeat"
  | .noEndOfBlock => "invalid code -- missing end-of-block"
  | .literalLengths => "invalid literal/lengths set"
  | .distances => "invalid distances set"
  | .literalCode => "invalid literal/length code"
  | .distanceCode => "invalid distance code"
  | .distanceTooFar => "invalid distance too far back"

namespace Inflate

/-- A number being read, lowest bit first: the bits still owed, the value so far,
and the weight of the next bit. -/
structure Number where
  owed : Nat
  value : Nat
  weight : Nat
  deriving Repr, DecidableEq

/-- A number of so many bits of which nothing is read. -/
def Number.ofWidth (width : Nat) : Number := ⟨width, 0, 1⟩

/-- Takes a bit. -/
def Number.take (n : Number) (bit : Bool) : Number :=
  ⟨n.owed - 1, n.value + (if bit then n.weight else 0), n.weight * 2⟩

/-- How many lengths describe the two codes of a block, and how many describe the
code that those lengths are written in. -/
structure Sizes where
  literals : Nat
  distances : Nat
  lengths : Nat
  deriving Repr, DecidableEq

/-- The two codes of a block. -/
structure Codes where
  literals : Tree
  distances : Tree
  deriving Repr, DecidableEq

/-- What is being read.  Lengths read so far are last first. -/
inductive Phase where
  | header (n : Number)
  | storedSize (came : List UInt8)
  | stored (remaining : Nat)
  | sizes (n : Number)
  | lengthLengths (s : Sizes) (read : List Nat) (n : Number)
  | lengths (s : Sizes) (code : Tree) (read : List Nat) (walk : Tree)
  | repeatCount (s : Sizes) (code : Tree) (read : List Nat) (symbol : Nat) (n : Number)
  | literal (c : Codes) (walk : Tree)
  | lengthRest (c : Codes) (base : Nat) (n : Number)
  | distance (c : Codes) (length : Nat) (walk : Tree)
  | distanceRest (c : Codes) (length base : Nat) (n : Number)
  | ended
  deriving Repr, DecidableEq

/-- Where inflating stands: what is being read, whether the block is the last, and
the content so far. -/
structure State where
  phase : Phase
  final : Bool
  out : Array UInt8
  deriving Repr, DecidableEq

/-- Nothing is read. -/
def State.start : State := ⟨.header (.ofWidth 3), false, #[]⟩

/-- The content is at its end. -/
def State.isEnded (s : State) : Bool := s.phase matches .ended

/-- A block is at its end. -/
def State.endBlock (s : State) : State :=
  { s with phase := if s.final then .ended else .header (.ofWidth 3) }

/-- The lengths of the fixed code of literals. -/
def fixedLiterals : List Nat :=
  List.replicate 144 8 ++ List.replicate 112 9 ++ List.replicate 24 7 ++ List.replicate 8 8

/-- The fixed codes. -/
def fixedCodes : Codes := ⟨.ofLengths fixedLiterals, .ofLengths (List.replicate 32 5)⟩

/-- The header of a block: whether it is the last, and how it is written. -/
def State.takeHeader (s : State) (value : Nat) : Except InflateError State :=
  let s := { s with final := value % 2 == 1 }
  match value / 2 with
  | 0 => .ok { s with phase := .storedSize [] }
  | 1 => .ok { s with phase := .literal fixedCodes fixedCodes.literals }
  | 2 => .ok { s with phase := .sizes (.ofWidth 14) }
  | _ => .error .blockType

/-- The number of lengths of each code of a block. -/
def State.takeSizes (s : State) (value : Nat) : Except InflateError State :=
  let sizes : Sizes := ⟨value % 32 + 257, value / 32 % 32 + 1, value / 1024 + 4⟩
  if 286 < sizes.literals ∨ 30 < sizes.distances then .error .tooManySymbols
  else .ok { s with phase := .lengthLengths sizes [] (.ofWidth 3) }

/-- The order in which the lengths of the code for lengths come. -/
def lengthOrder : List Nat := [16, 17, 18, 0, 8, 7, 9, 6, 10, 5, 11, 4, 12, 3, 13, 2, 14, 1, 15]

/-- The lengths of the code for lengths, by symbol; `read` are those that came. -/
def lengthsBySymbol (read : List Nat) : List Nat :=
  (List.range 19).map fun symbol => (read[lengthOrder.idxOf symbol]?).getD 0

/-- The code for lengths.  One without any path reads every bit as the length zero. -/
def lengthCode (lengths : List Nat) : Except InflateError Tree :=
  let share := pathShare lengths
  if share = 0 then .ok (.node (.leaf 0) (.leaf 0))
  else if share = wholeShare then .ok (.ofLengths lengths)
  else .error .codeLengths

/-- The paths of a code make up the whole, or there are none, or a single bit. -/
def isUsable (lengths : List Nat) : Bool :=
  let share := pathShare lengths
  share = wholeShare || (share ≤ wholeShare && lengths.all (· ≤ 1))

/-- The codes of a block with the given lengths. -/
def codesOf (s : Sizes) (lengths : List Nat) : Except InflateError Codes :=
  let literals := lengths.take s.literals
  let distances := lengths.drop s.literals
  if (lengths[256]?).getD 0 = 0 then .error .noEndOfBlock
  else if !isUsable literals then .error .literalLengths
  else if !isUsable distances then .error .distances
  else .ok ⟨.ofLengths literals, .ofLengths distances⟩

/-- Goes on behind some lengths, last first: to the next, or to the block if these
are all. -/
def State.afterLengths (s : State) (sizes : Sizes) (code : Tree) (read : List Nat) :
    Except InflateError State :=
  if read.length < sizes.literals + sizes.distances then
    .ok { s with phase := .lengths sizes code read code }
  else
    match codesOf sizes read.reverse with
    | .error e => .error e
    | .ok codes => .ok { s with phase := .literal codes codes.literals }

/-- Takes a length of the code for lengths. -/
def State.takeLengthLength (s : State) (sizes : Sizes) (read : List Nat) :
    Except InflateError State :=
  if read.length < sizes.lengths then
    .ok { s with phase := .lengthLengths sizes read (.ofWidth 3) }
  else
    match lengthCode (lengthsBySymbol read.reverse) with
    | .error e => .error e
    | .ok code => s.afterLengths sizes code []

/-- Takes a symbol of the code for lengths: a length, or that lengths repeat. -/
def State.takeLength (s : State) (sizes : Sizes) (code : Tree) (read : List Nat) (symbol : Nat) :
    Except InflateError State :=
  if symbol < 16 then s.afterLengths sizes code (symbol :: read)
  else
    let width := if symbol = 16 then 2 else if symbol = 17 then 3 else 7
    .ok { s with phase := .repeatCount sizes code read symbol (.ofWidth width) }

/-- Repeats a length: the last one, or zero. -/
def State.takeRepeat (s : State) (sizes : Sizes) (code : Tree) (read : List Nat)
    (symbol extra : Nat) : Except InflateError State :=
  let count := extra + if symbol = 18 then 11 else 3
  let length? := if symbol = 16 then read.head? else some 0
  match length? with
  | none => .error .lengthRepeat
  | some length =>
      if sizes.literals + sizes.distances < read.length + count then .error .lengthRepeat
      else s.afterLengths sizes code (List.replicate count length ++ read)

/-- The least length of each symbol for lengths, and the bits that add to it. -/
def lengthSteps : List (Nat × Nat) :=
  [(3, 0), (4, 0), (5, 0), (6, 0), (7, 0), (8, 0), (9, 0), (10, 0), (11, 1), (13, 1), (15, 1),
    (17, 1), (19, 2), (23, 2), (27, 2), (31, 2), (35, 3), (43, 3), (51, 3), (59, 3), (67, 4),
    (83, 4), (99, 4), (115, 4), (131, 5), (163, 5), (195, 5), (227, 5), (258, 0)]

/-- The least distance of each symbol for distances, and the bits that add to it. -/
def distanceSteps : List (Nat × Nat) :=
  [(1, 0), (2, 0), (3, 0), (4, 0), (5, 1), (7, 1), (9, 2), (13, 2), (17, 3), (25, 3), (33, 4),
    (49, 4), (65, 5), (97, 5), (129, 6), (193, 6), (257, 7), (385, 7), (513, 8), (769, 8),
    (1025, 9), (1537, 9), (2049, 10), (3073, 10), (4097, 11), (6145, 11), (8193, 12), (12289, 12),
    (16385, 13), (24577, 13)]

/-- Repeats a stretch that began so far back, byte by byte. -/
def copyBack (out : Array UInt8) (back : Nat) : Nat → Array UInt8
  | 0 => out
  | count + 1 => copyBack (out.push ((out[out.size - back]?).getD 0)) back count

/-- Repeats a stretch, if the content goes back that far. -/
def State.takeStretch (s : State) (c : Codes) (length back : Nat) : Except InflateError State :=
  if s.out.size < back then .error .distanceTooFar
  else .ok { s with phase := .literal c c.literals, out := copyBack s.out back length }

/-- Takes a symbol for a distance. -/
def State.takeDistance (s : State) (c : Codes) (length symbol : Nat) : Except InflateError State :=
  match distanceSteps[symbol]? with
  | none => .error .distanceCode
  | some (base, 0) => s.takeStretch c length base
  | some (base, width) => .ok { s with phase := .distanceRest c length base (.ofWidth width) }

/-- Takes a symbol of the content: a byte, the end of the block, or a length. -/
def State.takeLiteral (s : State) (c : Codes) (symbol : Nat) : Except InflateError State :=
  if symbol < 256 then
    .ok { s with phase := .literal c c.literals, out := s.out.push (UInt8.ofNat symbol) }
  else if symbol = 256 then .ok s.endBlock
  else
    match lengthSteps[symbol - 257]? with
    | none => .error .literalCode
    | some (length, 0) => .ok { s with phase := .distance c length c.distances }
    | some (base, width) => .ok { s with phase := .lengthRest c base (.ofWidth width) }

/-- Takes one bit.  What is read byte by byte lets it go. -/
def State.takeBit (s : State) (bit : Bool) : Except InflateError State :=
  match s.phase with
  | .header n =>
      let n := n.take bit
      if n.owed = 0 then s.takeHeader n.value else .ok { s with phase := .header n }
  | .sizes n =>
      let n := n.take bit
      if n.owed = 0 then s.takeSizes n.value else .ok { s with phase := .sizes n }
  | .lengthLengths sizes read n =>
      let n := n.take bit
      if n.owed = 0 then s.takeLengthLength sizes (n.value :: read)
      else .ok { s with phase := .lengthLengths sizes read n }
  | .lengths sizes code read walk =>
      match walk.follow bit with
      | .leaf symbol => s.takeLength sizes code read symbol
      | walk => .ok { s with phase := .lengths sizes code read walk }
  | .repeatCount sizes code read symbol n =>
      let n := n.take bit
      if n.owed = 0 then s.takeRepeat sizes code read symbol n.value
      else .ok { s with phase := .repeatCount sizes code read symbol n }
  | .literal c walk =>
      match walk.follow bit with
      | .leaf symbol => s.takeLiteral c symbol
      | .none => .error .literalCode
      | walk => .ok { s with phase := .literal c walk }
  | .lengthRest c base n =>
      let n := n.take bit
      if n.owed = 0 then .ok { s with phase := .distance c (base + n.value) c.distances }
      else .ok { s with phase := .lengthRest c base n }
  | .distance c length walk =>
      match walk.follow bit with
      | .leaf symbol => s.takeDistance c length symbol
      | .none => .error .distanceCode
      | walk => .ok { s with phase := .distance c length walk }
  | .distanceRest c length base n =>
      let n := n.take bit
      if n.owed = 0 then s.takeStretch c length (base + n.value)
      else .ok { s with phase := .distanceRest c length base n }
  | .storedSize _ | .stored _ | .ended => .ok s

/-- The number that two bytes write, low byte first. -/
def pair (low high : UInt8) : Nat := low.toNat + 256 * high.toNat

/-- The size of a stored block, written twice: as it is and with all bits turned. -/
def State.takeStoredSize (s : State) (came : List UInt8) : Except InflateError State :=
  match came with
  | [d, c, b, a] =>
      if pair a b + pair c d ≠ 0xffff then .error .storedLengths
      else if pair a b = 0 then .ok s.endBlock
      else .ok { s with phase := .stored (pair a b) }
  | _ => .ok { s with phase := .storedSize came }

/-- The bits of a byte, the lowest first. -/
def bitsOf (b : UInt8) : List Bool :=
  (List.range 8).map fun i => b.toNat / Nat.pow 2 i % 2 == 1

/-- Takes one byte. -/
def State.take (s : State) (b : UInt8) : Except InflateError State :=
  match s.phase with
  | .storedSize came => s.takeStoredSize (b :: came)
  | .stored remaining =>
      let s := { s with out := s.out.push b }
      .ok (if remaining ≤ 1 then s.endBlock else { s with phase := .stored (remaining - 1) })
  | .ended => .ok s
  | _ => (bitsOf b).foldlM State.takeBit s

end Inflate
end Coding
end RouteProbe

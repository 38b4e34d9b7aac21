import RouteProbe.Text.Blank
import RouteProbe.Text.Quoted
import RouteProbe.Text.Word

/-!
# Breaking a text into lines

A text of one line, in which words stand apart by single spaces, is broken into lines
of a width.  It is first cut into chunks between which a line may end: runs of spaces,
dashes between words, and words, which may also end at a hyphen between letters.  A
chunk that is wider than a line is cut.
-/

namespace RouteProbe
namespace Cli

open Text

/-- What a chunk is made of: spaces, dashes between words, or a word; a word may end
with a hyphen still to come. -/
inductive ChunkKind where
  | blanks
  | dashes
  | word
  | hyphen
  deriving Repr, DecidableEq

namespace ChunkKind

/-- A character behind which dashes stand for themselves. -/
def isBeforeDashes (c : Char) : Bool :=
  isWordChar c || c = '!' || c = doubleQuote || c = singleQuote || c = '&' || c = '.' || c = ',' ||
    c = '?'

/-- Two or more hyphens with a word behind them. -/
def startsDashes (rest : List Char) : Bool :=
  match rest.span (· = '-') with
  | (_ :: _ :: _, c :: _) => isWordChar c
  | _ => false

/-- Dashes stand between what is before, given in reverse, and what comes. -/
def dashesHere (before rest : List Char) : Bool :=
  (before.head?.map isBeforeDashes).getD false && startsDashes rest

/-- The text before a hyphen, given in reverse, ends so that a line may end behind the
hyphen. -/
def endsForHyphen (before : List Char) : Bool :=
  match before with
  | a :: b :: more =>
      isLetter a && (isLetter b || (b = '-' && (more.head?.map isLetter).getD false))
  | _ => false

/-- The text behind a hyphen begins so that a line may end before it. -/
def startsAfterHyphen (rest : List Char) : Bool :=
  match rest with
  | a :: b :: more =>
      isLetter a && (isLetter b || (b = '-' && (more.head?.map isLetter).getD false))
  | _ => false

/-- A line may end behind the hyphen that comes next. -/
def hyphenNext (before rest : List Char) : Bool :=
  match rest with
  | '-' :: more => endsForHyphen before && startsAfterHyphen more
  | _ => false

/-- The kind of the chunk that begins here. -/
def atStart (before rest : List Char) : ChunkKind :=
  if rest.head? = some ' ' then .blanks
  else if dashesHere before rest then .dashes
  else .word

/-- How a chunk goes on, if it does, after the last character of what is before. -/
def next (before rest : List Char) : ChunkKind → Option ChunkKind
  | .blanks => if rest.head? = some ' ' then some .blanks else none
  | .dashes => if rest.head? = some '-' then some .dashes else none
  | .hyphen => none
  | .word =>
      if hyphenNext before rest then some .hyphen
      else if rest.isEmpty || rest.head? = some ' ' || dashesHere before rest then none
      else some .word

end ChunkKind

/-- The chunks of a text: `before` is what precedes it and `chunk` what the chunk under
way already has, both in reverse. -/
def chunksFrom (kind : ChunkKind) (before chunk : List Char) : List Char → List (List Char)
  | [] => []
  | c :: cs =>
      match kind.next (c :: before) cs with
      | some kind => chunksFrom kind (c :: before) (c :: chunk) cs
      | none => (c :: chunk).reverse :: chunksFrom (.atStart (c :: before) cs) (c :: before) [] cs

/-- The chunks of a text. -/
def chunks (cs : List Char) : List (List Char) := chunksFrom (.atStart [] cs) [] [] cs

/-- A chunk without anything to see. -/
def isBlankChunk (chunk : List Char) : Bool := chunk.all isBlank

/-- The chunks that fit into a line, and those that do not. -/
def takeFitting : Nat → List (List Char) → List (List Char) × List (List Char)
  | _, [] => ([], [])
  | room, chunk :: more =>
      if chunk.length ≤ room then
        let (fitting, left) := takeFitting (room - chunk.length) more
        (chunk :: fitting, left)
      else ([], chunk :: more)

/-- Where a chunk that is too wide is cut: behind its last hyphen that fits, if
something other than hyphens is before that, or else where the line is full. -/
def cutPlace (room : Nat) (chunk : List Char) : Nat :=
  let fitting := chunk.take room
  let behind := (fitting.reverse.takeWhile (· ≠ '-')).length
  let place := room - behind
  if room < chunk.length && 1 < place && (chunk.take (place - 1)).any (· ≠ '-') then place
  else room

/-- Takes one line off the chunks.  The first line of a text may begin with spaces. -/
def takeLine (width : Nat) (first : Bool) (chunks : List (List Char)) :
    List (List Char) × List (List Char) :=
  let chunks :=
    match chunks with
    | chunk :: more => if isBlankChunk chunk && !first then more else chunks
    | [] => []
  let (line, left) := takeFitting width chunks
  let (line, left) :=
    match left with
    | chunk :: more =>
        if width < chunk.length then
          let place := cutPlace (width - line.flatten.length) chunk
          (line ++ [chunk.take place], chunk.drop place :: more)
        else (line, left)
    | [] => (line, left)
  match line.getLast? with
  | some chunk => (if isBlankChunk chunk then line.dropLast else line, left)
  | none => (line, left)

/-- Fills lines with chunks.  Every line takes a chunk or a character, which bounds
their number. -/
def fillLines (width : Nat) : Nat → Bool → List (List Char) → List (List Char)
  | 0, _, _ => []
  | _ + 1, _, [] => []
  | fuel + 1, first, chunks =>
      let (line, left) := takeLine width first chunks
      if line.isEmpty then fillLines width fuel first left
      else line.flatten :: fillLines width fuel false left

/-- The lines of a text. -/
def wrap (width : Nat) (cs : List Char) : List (List Char) :=
  fillLines width (2 * cs.length + 1) true (chunks cs)

end Cli
end RouteProbe

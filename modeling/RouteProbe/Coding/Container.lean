import RouteProbe.Coding.Checksum
import RouteProbe.Coding.Inflate

/-!
# Containers of compressed content

Compressed content stands by itself, or between a header and a trailer that checks
it: two short bytes and one sum, or a file header and the sum and the size of the
content.  What comes behind the trailer is not looked at.
-/

namespace RouteProbe
namespace Coding

/-- Why a container cannot be read. -/
inductive ContainerError where
  | header
  | method
  | windowSize
  | headerFlags
  | headerSum
  | contentSum
  | contentSize
  | dictionaryNeeded
  | content (e : InflateError)
  deriving Repr, DecidableEq

/-- The message of an error. -/
def ContainerError.message : ContainerError → String
  | .dictionaryNeeded => "Error 2 while decompressing data"
  | .header => "Error -3 while decompressing data: incorrect header check"
  | .method => "Error -3 while decompressing data: unknown compression method"
  | .windowSize => "Error -3 while decompressing data: invalid window size"
  | .headerFlags => "Error -3 while decompressing data: unknown header flags set"
  | .headerSum => "Error -3 while decompressing data: header crc mismatch"
  | .contentSum => "Error -3 while decompressing data: incorrect data check"
  | .contentSize => "Error -3 while decompressing data: incorrect length check"
  | .content e => "Error -3 while decompressing data: " ++ e.message

namespace Container

/-- How content is wrapped. -/
inductive Kind where
  | file
  | short
  | bare
  deriving Repr, DecidableEq

/-- The part of a file header that is being read, once its fixed part is. -/
inductive FilePart where
  | extraSize (came : List UInt8)
  | extra (remaining : Nat)
  | name
  | comment
  | sum (came : List UInt8)
  deriving Repr, DecidableEq

/-- What is being read.  Headers so far are last byte first. -/
inductive Phase where
  | shortHeader (seen : List UInt8)
  | dictionary (came : Nat)
  | fileHeader (seen : List UInt8)
  | filePart (part : FilePart) (flags : Nat) (seen : List UInt8)
  | content (s : Inflate.State)
  | trailer (came : List UInt8) (out : Array UInt8)
  | done (out : Array UInt8)
  deriving Repr, DecidableEq

/-- A container that is being read. -/
structure State where
  kind : Kind
  phase : Phase
  deriving Repr, DecidableEq

/-- A container of which nothing is read. -/
def State.start : Kind → State
  | .file => ⟨.file, .fileHeader []⟩
  | .short => ⟨.short, .shortHeader []⟩
  | .bare => ⟨.bare, .content .start⟩

/-- The content so far. -/
def State.out (s : State) : Array UInt8 :=
  match s.phase with
  | .content i => i.out
  | .trailer _ out | .done out => out
  | _ => #[]

/-- Reads the two bytes of a short header. -/
def takeShortHeader (a b : UInt8) : Except ContainerError Phase :=
  if (a.toNat * 256 + b.toNat) % 31 ≠ 0 then .error .header
  else if a.toNat % 16 ≠ 8 then .error .method
  else if 7 < a.toNat / 16 then .error .windowSize
  else if b.toNat / 32 % 2 = 1 then .ok (.dictionary 0)
  else .ok (.content .start)

/-- A flag of a file header is set. -/
def hasFlag (flags bit : Nat) : Bool := flags / Nat.pow 2 bit % 2 == 1

/-- Where a file header goes on behind the comment. -/
def afterComment (flags : Nat) (seen : List UInt8) : Phase :=
  if hasFlag flags 1 then .filePart (.sum []) flags seen else .content .start

/-- Where a file header goes on behind the name. -/
def afterName (flags : Nat) (seen : List UInt8) : Phase :=
  if hasFlag flags 4 then .filePart .comment flags seen else afterComment flags seen

/-- Where a file header goes on behind the extra field. -/
def afterExtra (flags : Nat) (seen : List UInt8) : Phase :=
  if hasFlag flags 3 then .filePart .name flags seen else afterName flags seen

/-- Reads the fixed part of a file header: two bytes that mark it, the method, the
flags, and six bytes that say nothing about the content. -/
def takeFileHeader (seen : List UInt8) : Except ContainerError Phase :=
  match seen with
  | [b, a] => if a = 0x1f ∧ b = 0x8b then .ok (.fileHeader seen) else .error .header
  | [flags, method, _, _] =>
      if method ≠ 8 then .error .method
      else if 32 ≤ flags.toNat then .error .headerFlags
      else .ok (.fileHeader seen)
  | [_, _, _, _, _, _, flags, _, _, _] =>
      if hasFlag flags.toNat 2 then .ok (.filePart (.extraSize []) flags.toNat seen)
      else .ok (afterExtra flags.toNat seen)
  | _ => .ok (.fileHeader seen)

/-- Reads a byte of the rest of a file header; `seen` is the header with it. -/
def takeFilePart (part : FilePart) (flags : Nat) (seen : List UInt8) (b : UInt8) :
    Except ContainerError Phase :=
  match part with
  | .extraSize [a] =>
      let size := Inflate.pair a b
      .ok (if size = 0 then afterExtra flags seen else .filePart (.extra size) flags seen)
  | .extraSize came => .ok (.filePart (.extraSize (b :: came)) flags seen)
  | .extra remaining =>
      .ok (if remaining ≤ 1 then afterExtra flags seen
        else .filePart (.extra (remaining - 1)) flags seen)
  | .name => .ok (if b = 0 then afterName flags seen else .filePart .name flags seen)
  | .comment => .ok (if b = 0 then afterComment flags seen else .filePart .comment flags seen)
  | .sum [a] =>
      if (crc32 (seen.drop 2).reverse).toNat % 65536 = Inflate.pair a b then
        .ok (.content .start)
      else .error .headerSum
  | .sum came => .ok (.filePart (.sum (b :: came)) flags seen)

/-- The number that bytes write, low byte first. -/
def littleEndian (bs : List UInt8) : Nat := bs.foldr (fun b n => b.toNat + 256 * n) 0

/-- The number that bytes write, high byte first. -/
def bigEndian (bs : List UInt8) : Nat := bs.foldl (fun n b => n * 256 + b.toNat) 0

/-- Checks the trailer as far as it has come, last byte first. -/
def takeTrailer (kind : Kind) (came : List UInt8) (out : Array UInt8) :
    Except ContainerError Phase :=
  match kind, came.length with
  | .short, 4 =>
      if bigEndian came.reverse = adler32 out.toList then .ok (.done out) else .error .contentSum
  | .file, 4 =>
      if littleEndian came.reverse = (crc32 out.toList).toNat then .ok (.trailer came out)
      else .error .contentSum
  | .file, 8 =>
      if littleEndian (came.reverse.drop 4) = out.size % Nat.pow 2 32 then .ok (.done out)
      else .error .contentSize
  | _, _ => .ok (.trailer came out)

/-- Goes on behind content that is at its end. -/
def afterContent (kind : Kind) (s : Inflate.State) : Phase :=
  if s.isEnded then
    match kind with
    | .bare => .done s.out
    | _ => .trailer [] s.out
  else .content s

/-- Takes one byte of a container. -/
def takePhase (kind : Kind) (phase : Phase) (b : UInt8) : Except ContainerError Phase :=
  match phase with
  | .shortHeader [a] => takeShortHeader a b
  | .shortHeader seen => .ok (.shortHeader (b :: seen))
  | .dictionary came => if came = 3 then .error .dictionaryNeeded else .ok (.dictionary (came + 1))
  | .fileHeader seen => takeFileHeader (b :: seen)
  | .filePart part flags seen => takeFilePart part flags (b :: seen) b
  | .content s =>
      match s.take b with
      | .error e => .error (.content e)
      | .ok s => .ok (afterContent kind s)
  | .trailer came out => takeTrailer kind (b :: came) out
  | .done out => .ok (.done out)

/-- Takes one byte. -/
def State.take (s : State) (b : UInt8) : Except ContainerError State :=
  match takePhase s.kind s.phase b with
  | .error e => .error e
  | .ok phase => .ok ⟨s.kind, phase⟩

/-- Takes bytes; answers with the content that they add. -/
def State.feed (s : State) (bs : List UInt8) : Except ContainerError (State × List UInt8) :=
  let before := s.out.size
  match bs.foldlM State.take s with
  | .error e => .error e
  | .ok s => .ok (s, (s.out.extract before s.out.size).toList)

end Container
end Coding
end RouteProbe

import RichText.Encoding.Basic
import RichText.Options.Reading

/-!
Where documents are read from, and the text that is found there. Text is taken as it is; bytes are
decoded, wherever they come from.
-/
namespace RichText

inductive Entry
  | file (content : List UInt8)
  | directory
  | missing

/-- Where a document is read from. -/
inductive Source
  | text (s : String)
  | textStream (s : String)
  | bytes (content : List UInt8)
  | byteStream (content : List UInt8)
  | path (p : String) (entry : Entry)

inductive ReadStage
  | input
  | decoding
deriving DecidableEq

def ReadStage.name : ReadStage → String
  | input => "input"
  | decoding => "decoding"

/-- Why a source has no text. -/
inductive ReadFault
  | missing (path : String)
  | directory (path : String)
  /-- A null character in the name of the encoding. -/
  | nullInName
  | unknownEncoding (name : String)
  | undecodable (encoding : String) (cause : Encoding.DecodeFault)
deriving DecidableEq

namespace ReadFault

/-- The stage that finds a fault, for faults of the source. -/
def stage? : ReadFault → Option ReadStage
  | missing _ | directory _ => some .input
  | unknownEncoding _ | undecodable _ _ => some .decoding
  | nullInName => none

def message : ReadFault → String
  | missing path =>
    "Could not read input: [Errno 2] No such file or directory: " ++ Text.quoted path
  | directory path => "Could not read input: [Errno 21] Is a directory: " ++ Text.quoted path
  | nullInName => "embedded null character"
  | unknownEncoding name =>
    "Could not decode input as " ++ name ++ ": unknown encoding: " ++ name
  | undecodable encoding cause =>
    "Could not decode input as " ++ encoding ++ ": " ++ cause.message

end ReadFault

/-- A path in its plain form: no part is empty or stands for the directory it is in. Two slashes in
front differ from one and from more than two. -/
def plainPath (path : String) : String :=
  let s := path.toList
  let slashes := s.takeWhile (· = '/')
  let root := if slashes.length ≤ 2 then slashes else ['/']
  let parts := (Text.splitAt '/' s).filter fun part => !part.isEmpty && part != ['.']
  let plain := root ++ ['/'].intercalate parts
  if plain.isEmpty then "." else String.ofList plain

/-- The text of bytes. No bytes have no text in any encoding, even in one that there is not. A name
with a null character in it is not looked up at all. -/
def DecodingOptions.decode (o : DecodingOptions) (bytes : List UInt8) :
    Except ReadFault (List Char) :=
  if Encoding.nullChar ∈ o.encoding.toList then .error .nullInName
  else if bytes.isEmpty then .ok []
  else
    match Encoding.ofName? o.encoding with
    | none => .error (.unknownEncoding o.encoding)
    | some encoding => (encoding.decode bytes).mapError (.undecodable o.encoding)

def Source.content (o : DecodingOptions) : Source → Except ReadFault (List Char)
  | text s | textStream s => .ok s.toList
  | bytes content | byteStream content | path _ (.file content) => o.decode content
  | path p .directory => .error (.directory (plainPath p))
  | path p .missing => .error (.missing (plainPath p))

end RichText

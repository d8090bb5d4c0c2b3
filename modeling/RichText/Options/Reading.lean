import RichText.Options.Settings

/-!
Settings for reading documents.
-/
namespace RichText

structure DecodingOptions where
  encoding : String := "utf-8"
deriving BEq

structure ReadingOptions extends DecodingOptions where
  strikethrough : Bool := true
  taskLists : Bool := true
deriving BEq

def DecodingOptions.validate (o : DecodingOptions) : Except OptionsFault DecodingOptions :=
  if o.encoding.isEmpty then .error .emptyEncoding else .ok o

def ReadingOptions.validate (o : ReadingOptions) : Except OptionsFault ReadingOptions := do
  let _ ← o.toDecodingOptions.validate
  .ok o

inductive DecodingOptions.Field
  | encoding
deriving DecidableEq

abbrev DecodingOptions.Field.Value : DecodingOptions.Field → Type
  | .encoding => String

instance : Settings DecodingOptions where
  Field := DecodingOptions.Field
  Value := DecodingOptions.Field.Value
  fields := [.encoding]
  name
    | .encoding => "encoding"
  defaults := {}
  get o
    | .encoding => o.encoding
  set o
    | .encoding, v => { o with encoding := v }
  validate := DecodingOptions.validate

inductive ReadingOptions.Field
  | encoding
  | strikethrough
  | taskLists
deriving DecidableEq

abbrev ReadingOptions.Field.Value : ReadingOptions.Field → Type
  | .encoding => String
  | .strikethrough => Bool
  | .taskLists => Bool

instance : Settings ReadingOptions where
  Field := ReadingOptions.Field
  Value := ReadingOptions.Field.Value
  fields := [.encoding, .strikethrough, .taskLists]
  name
    | .encoding => "encoding"
    | .strikethrough => "parse_strikethrough"
    | .taskLists => "parse_task_lists"
  defaults := {}
  get o
    | .encoding => o.encoding
    | .strikethrough => o.strikethrough
    | .taskLists => o.taskLists
  set o
    | .encoding, v => { o with encoding := v }
    | .strikethrough, v => { o with strikethrough := v }
    | .taskLists, v => { o with taskLists := v }
  validate := ReadingOptions.validate

end RichText

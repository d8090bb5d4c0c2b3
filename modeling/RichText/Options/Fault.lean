import RichText.Decimal.Layout

/-!
Why settings are refused.
-/
namespace RichText

inductive OptionsFault
  | unknownField (name : String)
  | depthNotPositive (depth : Int)
  | baseSizeNotPositive (size : Float)
  | codeSizeNotPositive (delta base : Float)
  | headingSizeNotPositive (base step : Float)
  | negativeSpacing (name : String) (spacing : Float)
  | emptyBullet
  | emptyEncoding

def OptionsFault.message : OptionsFault → String
  | unknownField name => "unknown field " ++ name
  | depthNotPositive depth => "max_nesting_depth must be positive, got " ++ toString depth
  | baseSizeNotPositive size => "base_font_size must be positive, got " ++ Decimal.text size
  | codeSizeNotPositive delta base =>
    "code_size_delta (" ++ Decimal.text delta ++
      ") leaves no positive code size for base_font_size " ++
      Decimal.text base
  | headingSizeNotPositive base step =>
    "heading_base_size " ++ Decimal.text base ++ " with step " ++ Decimal.text step ++
      " gives a non-positive size for level 6 headings"
  | negativeSpacing name spacing => name ++ " must be non-negative, got " ++ Decimal.text spacing
  | emptyBullet => "bullet must be a non-empty string"
  | emptyEncoding => "encoding must be a non-empty string"

end RichText

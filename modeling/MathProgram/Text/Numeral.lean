/-!
# Numerals

A numeral is a decimal number with or without a sign: digits, perhaps a point
before, between or behind them, perhaps an exponent of ten.  The words for
infinity and for no number, in any case, are numerals as well.
-/

namespace MathProgram

namespace Numeral

/-- A text without one sign at its start. -/
def unsigned : List Char → List Char
  | '+' :: rest => rest
  | '-' :: rest => rest
  | cs => cs

/-- Whether a text is empty or an exponent of ten. -/
def isExponent : List Char → Bool
  | [] => true
  | c :: rest =>
    (c == 'e' || c == 'E') && !(unsigned rest).isEmpty && (unsigned rest).all Char.isDigit

/-- Whether a text is a decimal number without a sign. -/
def isDecimal
    (text : List Char) :
    Bool :=
  let whole := text.takeWhile Char.isDigit
  match text.dropWhile Char.isDigit with
  | '.' :: rest =>
    !(whole.isEmpty && (rest.takeWhile Char.isDigit).isEmpty) &&
      isExponent (rest.dropWhile Char.isDigit)
  | rest => !whole.isEmpty && isExponent rest

/-- Whether a text is a word for infinity or for no number. -/
def isWord
    (text : List Char) :
    Bool :=
  match (String.ofList text).toLower with
  | "inf" | "infinity" | "nan" => true
  | _ => false

end Numeral

/-- Whether a text is a numeral. -/
def isNumeral
    (text : List Char) :
    Bool :=
  Numeral.isDecimal (Numeral.unsigned text) || Numeral.isWord (Numeral.unsigned text)

end MathProgram

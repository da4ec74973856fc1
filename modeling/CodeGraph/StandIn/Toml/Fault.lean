import CodeGraph.Json.Plain
import CodeGraph.Text.Position

/-! What can be wrong with a settings text. -/
namespace CodeGraph.StandIn.Toml

inductive Complaint
  | keyWithoutValue
  | keyWithoutValueAtEnd
  | badKeyCharacter (c : Char)
  | unbalancedQuotes
  | emptyKey
  | unterminatedString
  | loneBracket
  | tableNotAlone
  | brokenTableName (name : Text)
  | badTableName (name : Text)
  | emptyTableName
  | implicitTableArray
  | tableExists (name : Text) (within : Json)
  | brokenInlineTable
  | badInlineTable
  | badInlineValue
  | badNumberOrDate
  | duplicateKey
  | emptyValue
  | badBoolean
  | textAfterString
  | reservedEscape
  | badCodeEscape (digits : Text)
  | surrogateEscape (digits : Text)
  | codePointRange
  | badDigits
  | noPlaces
  | noLeadingDigit
  | mixedArray
  | notAnInteger (text : Text)
  | tooManyDigits (count : Nat)
  | notAFloat (text : Text)
deriving DecidableEq

def Complaint.message : Complaint → Text
  | .keyWithoutValue => "Key name found without value. Reached end of line."
  | .keyWithoutValueAtEnd => "Key name found without value. Reached end of file."
  | .badKeyCharacter c =>
    "Found invalid character in key name: '" ++ c :: "'. Try quoting the key name.".toList
  | .unbalancedQuotes => "Unbalanced quotes"
  | .emptyKey => "Found empty keyname. "
  | .unterminatedString => "Unterminated string found. Reached end of file."
  | .loneBracket => "Opening key group bracket on line by itself."
  | .tableNotAlone => "Key group not on a line by itself."
  | .brokenTableName name => "Invalid group name '" ++ name ++ "' Something went wrong."
  | .badTableName name => "Invalid group name '" ++ name ++ "'. Try quoting it."
  | .emptyTableName => "Can't have a keygroup with an empty name"
  | .implicitTableArray => "An implicitly defined table can't be an array"
  | .tableExists name within => "What? " ++ name ++ " already exists?" ++ within.shown
  | .brokenInlineTable => "Line breaks are not allowed in inlineobjects"
  | .badInlineTable => "Invalid inline table encountered"
  | .badInlineValue => "Invalid inline table value encountered"
  | .badNumberOrDate => "Invalid date or number"
  | .duplicateKey => "Duplicate keys!"
  | .emptyValue => "Empty value is invalid"
  | .badBoolean => "Only all lowercase booleans allowed"
  | .textAfterString => "Found tokens after a closed string. Invalid TOML."
  | .reservedEscape => "Reserved escape sequence used"
  | .badCodeEscape digits => "Invalid escape sequence: " ++ digits
  | .surrogateEscape digits =>
    "Invalid escape sequence: " ++ digits ++ ". Only scalar unicode points are allowed."
  | .codePointRange => "chr() arg not in range(0x110000)"
  | .badDigits => "Weirdness with leading zeroes or underscores in your number."
  | .noPlaces => "This float is missing digits after the point"
  | .noLeadingDigit => "This float doesn't have a leading digit"
  | .mixedArray => "Not a homogeneous array"
  | .notAnInteger text =>
    "invalid literal for int() with base 0: " ++ (Text.quoted text).take 200
  | .tooManyDigits count =>
    "Exceeds the limit (4300 digits) for integer string conversion: value has " ++
      Text.ofNat count ++ " digits; use sys.set_int_max_str_digits() to increase the limit"
  | .notAFloat text => "could not convert string to float: " ++ Text.quoted text

/-- Malformed text is complained about. The other troubles end the reading at once: a value that is
no table is used as one, a text ends where a character is needed, a code point is far too large, a
string of several lines has an empty key. -/
inductive Trouble
  | malformed (complaint : Complaint)
  | notATable
  | cutShort
  | hugeCodePoint
  | namelessString
deriving DecidableEq

structure Fault where
  trouble : Trouble
  offset : Nat
deriving DecidableEq

/-- The complaint with its place in the text that was read. -/
def Complaint.messageAt (c : Complaint) (source : Text) (offset : Nat) : Text :=
  let p := Text.positionAt source offset
  c.message ++ " (line " ++ Text.ofNat p.line ++ " column " ++ Text.ofNat p.column ++ " char " ++
    Text.ofNat p.offset ++ ")"

end CodeGraph.StandIn.Toml

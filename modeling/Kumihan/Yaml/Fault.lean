import Kumihan.Data.Printed
import Kumihan.Text.Letter

/-!
# Faults of YAML texts

Three things can be wrong with a file that should be YAML: it is not YAML or uses
what is not understood here (a complaint), one of its scalars has the form of a
value that does not exist, such as the thirtieth of February (an unreadable
scalar), or its bytes are no text.

## Main definitions

* `Complaint`, `ScalarFault`, `Fault`.
-/

namespace Kumihan.Yaml

/-- Why a text is not YAML that can be understood. -/
inductive Complaint
  /-- A character is none that a text may hold. -/
  | unprintable (c : Char)
  /-- No token begins with the character. -/
  | strayCharacter (c : Char)
  /-- What has to be a key has no value. -/
  | keyWithoutValue
  /-- An entry of a list stands where none can begin. -/
  | misplacedEntry
  /-- A key stands where none can begin. -/
  | misplacedKey
  /-- A value stands where none can begin. -/
  | misplacedValue
  /-- A directive cannot be read. -/
  | badDirective
  /-- A directive is given twice. -/
  | duplicateDirective
  /-- The text asks for another version of YAML. -/
  | otherVersion (major : Nat)
  /-- An anchor or alias has no name. -/
  | badAnchor
  /-- A tag cannot be read. -/
  | badTag
  /-- The first line of a block scalar cannot be read. -/
  | badBlockHeader
  /-- An escape in a quoted scalar cannot be read. -/
  | badEscape
  /-- A quoted scalar holds the end of its document. -/
  | separatorInScalar
  /-- A quoted scalar is not closed. -/
  | unclosedScalar
  /-- A document does not begin. -/
  | missingDocumentStart
  /-- The text holds more than one document. -/
  | severalDocuments
  /-- There is no value where one has to be. -/
  | missingNode
  /-- A list or mapping in block style goes on with something else. -/
  | missingBlockEnd
  /-- A list or mapping in flow style goes on with something else. -/
  | missingComma
  /-- The handle of a tag is not declared. -/
  | undefinedHandle (handle : String)
  /-- An alias names no anchor. -/
  | undefinedAlias (name : String)
  /-- An anchor is given twice. -/
  | duplicateAnchor (name : String)
  /-- There is no value of the tag. -/
  | unknownTag (tag : String)
  /-- The tag asks for a value of another shape. -/
  | wrongShape
  /-- A list or mapping is a key. -/
  | collectionAsKey
  /-- What is merged into a mapping is none. -/
  | badMerge
  /-- Bytes are not written as they should be. -/
  | badBinary
  deriving DecidableEq, Repr

/-- What is said of a complaint. -/
def Complaint.message : Complaint → String
  | unprintable c => s!"unacceptable character {c.toNat}: special characters are not allowed"
  | strayCharacter c =>
    s!"found character {Text.quoted (String.singleton c)} that cannot start any token"
  | keyWithoutValue => "could not find expected ':'"
  | misplacedEntry => "sequence entries are not allowed here"
  | misplacedKey => "mapping keys are not allowed here"
  | misplacedValue => "mapping values are not allowed here"
  | badDirective => "could not read a directive"
  | duplicateDirective => "found a directive twice"
  | otherVersion major => s!"found incompatible YAML document of version {major}"
  | badAnchor => "could not read the name of an anchor"
  | badTag => "could not read a tag"
  | badBlockHeader => "could not read the indicators of a block scalar"
  | badEscape => "found unknown escape character"
  | separatorInScalar => "found unexpected document separator"
  | unclosedScalar => "found unexpected end of stream"
  | missingDocumentStart => "expected the start of a document"
  | severalDocuments => "expected a single document in the stream"
  | missingNode => "expected the node content"
  | missingBlockEnd => "expected the end of the block"
  | missingComma => "expected a comma or a closing bracket"
  | undefinedHandle handle => s!"found undefined tag handle {Text.quoted handle}"
  | undefinedAlias name => s!"found undefined alias {Text.quoted name}"
  | duplicateAnchor name => s!"found duplicate anchor {Text.quoted name}"
  | unknownTag tag => s!"could not determine a constructor for the tag {Text.quoted tag}"
  | wrongShape => "expected a node of another kind"
  | collectionAsKey => "found unhashable key"
  | badMerge => "expected a mapping or list of mappings for merging"
  | badBinary => "failed to decode base64 data"

/-- Why a scalar has no value though it has the form of one. -/
inductive ScalarFault
  /-- The text is no whole number in the base. -/
  | noInteger (base : Nat) (text : List Text.Letter)
  /-- The text is no floating-point number. -/
  | noFloat (text : List Text.Letter)
  /-- The text of a number is empty. -/
  | noDigits
  /-- The text of a whole number has so many digits, which are too many. -/
  | tooManyDigits (count : Nat)
  /-- A place of a number is worth more than a floating-point number can be. -/
  | hugePlace
  /-- The text is neither true nor false. -/
  | noTruthValue (text : List Text.Letter)
  /-- The text is no day. -/
  | noDate
  /-- What should be the text of a day is a mapping that stands for one. -/
  | mappingAsDate
  /-- A mapping stands for itself where a scalar is needed. -/
  | endless
  /-- There is no such year. -/
  | yearRange (year : Nat)
  /-- There is no such month. -/
  | monthRange
  /-- The month has no such day. -/
  | dayRange
  /-- There is no such hour. -/
  | hourRange
  /-- There is no such minute. -/
  | minuteRange
  /-- There is no such second. -/
  | secondRange
  /-- The distance from universal time, in minutes, is a day or more. -/
  | offsetRange (minutes : Int)
  /-- There is no character with the number. -/
  | noCharacter (code : Nat)
  deriving DecidableEq, Repr

/-- The greatest number of characters of a text that is quoted in a complaint about a whole
number. -/
def quoteLimit : Nat := 200

/-- What is said of a scalar without a value. -/
def ScalarFault.message : ScalarFault → String
  | noInteger base text =>
    s!"invalid literal for int() with base {base}: "
      ++ String.ofList ((Text.quotedLetters text).take quoteLimit)
  | noFloat text => "could not convert string to float: " ++ String.ofList (Text.quotedLetters text)
  | noDigits => "string index out of range"
  | tooManyDigits count => Data.numeralTooLong (some count)
  | hugePlace => "int too large to convert to float"
  | noTruthValue text => String.ofList (Text.quotedLetters text)
  | noDate => "'NoneType' object has no attribute 'groupdict'"
  | mappingAsDate => "expected string or bytes-like object, got 'list'"
  | endless => "maximum recursion depth exceeded"
  | yearRange year => s!"year {year} is out of range"
  | monthRange => "month must be in 1..12"
  | dayRange => "day is out of range for month"
  | hourRange => "hour must be in 0..23"
  | minuteRange => "minute must be in 0..59"
  | secondRange => "second must be in 0..59"
  | offsetRange minutes =>
    "offset must be a timedelta strictly between -timedelta(hours=24) and timedelta(hours=24), not "
      ++ String.ofList (Data.offsetName minutes) ++ "."
  | noCharacter code =>
    if code < 0x80000000 then "chr() arg not in range(0x110000)"
    else "Python int too large to convert to C int"

/-- What is wrong with a text that should be YAML. -/
inductive Fault
  /-- It is no YAML that can be understood. -/
  | malformed (complaint : Complaint)
  /-- A scalar has no value. -/
  | unreadable (fault : ScalarFault)
  /-- It is no text. -/
  | undecodable (fault : Text.DecodeFault)
  deriving DecidableEq, Repr

/-- What is said of a fault. -/
def Fault.message : Fault → String
  | malformed complaint => complaint.message
  | unreadable fault => fault.message
  | undecodable fault => fault.message

end Kumihan.Yaml

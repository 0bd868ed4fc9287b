import Gabarit.Calendar.Timestamp
import Gabarit.Text.Quoted
import Gabarit.Yaml.Basic

/-!
# Faults of values and encodings

What can go wrong while values are converted, compared, iterated or decoded. A fault is not one of the
engine's own errors; a filter's faults become the reason of one.

* `Fault`, `Fault.isOpen`: the causes, and those that say nothing about what happens;
* `Fault.message`: their texts, for those that an error of the engine can quote.
-/

namespace Gabarit

/-- A failed operation of the file system. -/
inductive FileFault where
  | notFound
  | isDirectory
  | notDirectory
  | exists
  | notEmpty
  | nameTooLong
  | busy
  /-- A name with a NUL, which the file system cannot be asked about. -/
  | nulInName
  deriving DecidableEq, Repr

/-- The text of a failed file operation. -/
def FileFault.message : FileFault → String
  | .notFound => "No such file or directory"
  | .isDirectory => "Is a directory"
  | .notDirectory => "Not a directory"
  | .exists => "File exists"
  | .notEmpty => "Directory not empty"
  | .nameTooLong => "File name too long"
  | .busy => "Device or resource busy"
  | .nulInName => "embedded null byte"

/-- Why an artifact cannot be read. -/
inductive ArtifactFault where
  /-- The text is no JSON. -/
  | notJson
  /-- The JSON does not have the shape of a program. -/
  | wrongShape
  /-- A text in it is not UTF-8. -/
  | badText
  /-- It nests too deeply. -/
  | tooDeep
  deriving DecidableEq, Repr

/-- What is wrong with a setting. -/
inductive SettingFault where
  /-- The settings are no mapping. -/
  | notMapping
  /-- A key that is no text. -/
  | keyType
  /-- A key that is no setting. -/
  | unknownKey
  | notText
  /-- A text whose bytes are not UTF-8. -/
  | badText
  | notPath
  /-- A text that is not one of those to choose from. -/
  | notChoice
  | unknownCharset (name : String)
  /-- A name of a charset with a NUL. -/
  | nulInCharset
  deriving DecidableEq, Repr

/-- The text about a setting whose value is refused. -/
def SettingFault.message? : SettingFault → Option String
  | .unknownCharset name => some ("Value error, Unknown charset: " ++ name)
  | .nulInCharset => some "Value error, embedded null character"
  | _ => none

/-- A setting with what is wrong with it; settings that are no mapping have no place. -/
structure SettingProblem where
  place : Option String
  cause : SettingFault
  deriving DecidableEq, Repr

/-- A failed conversion, comparison, iteration or decoding. -/
inductive Fault where
  /-- Source in a tag is no literal or expression. -/
  | malformedSource
  /-- Source in a tag holds a NUL. -/
  | nulInSource
  /-- A member of a set or key of a mapping that cannot be one. -/
  | unhashable (type : String)
  /-- A literal too great for the arithmetic it asks for. -/
  | literalOverflow
  /-- A number with more digits than conversions accept. -/
  | tooManyDigits
  /-- A text with a surrogate is to be encoded, which no encoding does. -/
  | surrogate
  /-- A filter works on a text with a surrogate. What it makes of this is left open. -/
  | brokenText
  /-- The value has no length. -/
  | noLength (type : String)
  /-- The length is beyond the range of lengths. -/
  | lengthRange
  /-- The value cannot be iterated. -/
  | notIterable (type : String)
  /-- The value cannot be called. -/
  | notCallable (type : String)
  /-- The value has no attribute of that name. -/
  | noAttribute (type name : String)
  /-- A mapping or a keyed value lacks the key; the text is the key as it is written. -/
  | noKey (key : String)
  /-- An index beyond the ends. -/
  | indexRange
  /-- A field path without parts. -/
  | emptyPath
  /-- A scope to be closed where none is open. -/
  | noScope
  /-- The values have no order. -/
  | unordered (op left right : String)
  /-- A timestamp with a clock and one without have no order. -/
  | mixedClocks
  /-- A date and a timestamp have no order. -/
  | mixedDates
  /-- A bound of a slice that is no integer. -/
  | sliceBound
  /-- A repetition by something that is no integer. -/
  | repetition (type : String)
  /-- A repetition by too great an integer. -/
  | repetitionRange
  /-- A value of a type that has no number. -/
  | notNumeric (type : String)
  /-- A text that is no number; it is given as it is written. -/
  | notANumeral (written : String)
  /-- An integer beyond the floating-point range. -/
  | integerRange
  /-- A number that is no time. -/
  | epoch (cause : Timestamp.EpochFault)
  /-- A pattern for dates that is no text. -/
  | patternType (type : String)
  /-- A key that a JSON object cannot have. -/
  | jsonKey (type : String)
  /-- A filter called with too many arguments; `most` is the number it takes, `least` that it needs. -/
  | tooManyArguments (function : String) (least most given : Nat)
  /-- A filter called without some of its arguments. -/
  | missingArguments (function : String) (names : List String)
  /-- A filter called without its named arguments. -/
  | missingNamed (function : String) (names : List String)
  /-- The greatest of no items. -/
  | emptyMaximum
  /-- The greatest of no arguments. -/
  | noMaximum
  /-- A member to be joined is text where bytes are wanted. -/
  | joinedText
  /-- A filter's own failure. -/
  | raised (text : String)
  /-- Nesting beyond the limit. -/
  | tooDeep
  /-- A loop that goes through more items than there were at its start. -/
  | endless
  /-- The charset is not known. -/
  | unknownCharset (name : String)
  /-- Bytes that the charset does not decode. -/
  | undecodable (reason : String)
  /-- Bytes in a charset that needs a byte order mark, without one. -/
  | missingMark
  /-- Bytes in a charset whose characters are not listed here. What they stand for is left open. -/
  | unlisted (charset : String)
  /-- A file operation failed. -/
  | file (cause : FileFault)
  /-- An artifact cannot be read. -/
  | artifact (cause : ArtifactFault)
  /-- The name `none` cannot be given to a filter. -/
  | reservedName
  /-- A YAML document cannot be read. -/
  | document (cause : Yaml.Fault)
  /-- Settings are refused. -/
  | settings (problems : List SettingProblem)
  /-- A file of settings that holds no mapping. -/
  | noSettings
  /-- A user without a home directory. -/
  | noHome
  /-- An extension that files cannot be searched by. -/
  | badPattern
  deriving DecidableEq

/-- What comes of the fault is left open: it tells that a value is not one of those that are described
here. -/
def Fault.isOpen : Fault → Bool
  | .brokenText | .unlisted _ | .endless => true
  | _ => false

/-- Names in a sentence: `'a'`, `'a' and 'b'`, `'a', 'b', and 'c'`. -/
def enumerate (names : List String) : String :=
  match names.map Text.quoted with
  | [] => ""
  | [a] => a
  | [a, b] => a ++ " and " ++ b
  | all => ", ".intercalate all.dropLast ++ ", and " ++ all.getLastD ""

/-- The text of a failed time conversion. -/
def Timestamp.EpochFault.message : Timestamp.EpochFault → String
  | .notANumber => "Invalid value NaN (not a number)"
  | .clockRange => "timestamp out of range for platform time_t"
  | .fieldRange => "[Errno 75] Value too large for defined data type"
  | .yearRange y => "year " ++ Text.intNumeral y ++ " is out of range"

/-- The text of a fault. Those that no message quotes have none. -/
def Fault.message : Fault → String
  | .malformedSource => "invalid syntax"
  | .nulInSource => "source code string cannot contain null bytes"
  | .unhashable t => "unhashable type: '" ++ t ++ "'"
  | .literalOverflow => "int too large to convert to float"
  | .tooManyDigits => "Exceeds the limit (4300 digits) for integer string conversion; " ++
      "use sys.set_int_max_str_digits() to increase the limit"
  | .surrogate => "surrogates not allowed"
  | .brokenText => ""
  | .noLength t => "object of type '" ++ t ++ "' has no len()"
  | .lengthRange => "Python int too large to convert to C ssize_t"
  | .notIterable t => "'" ++ t ++ "' object is not iterable"
  | .notCallable t => "'" ++ t ++ "' object is not callable"
  | .noAttribute t n => "'" ++ t ++ "' object has no attribute '" ++ n ++ "'"
  | .noKey k => k
  | .indexRange => "list index out of range"
  | .emptyPath => "not enough values to unpack (expected at least 1, got 0)"
  | .noScope => "pop from empty list"
  | .unordered op a b =>
    "'" ++ op ++ "' not supported between instances of '" ++ a ++ "' and '" ++ b ++ "'"
  | .mixedClocks => "can't compare offset-naive and offset-aware datetimes"
  | .mixedDates => "can't compare datetime.datetime to datetime.date"
  | .sliceBound => "slice indices must be integers or None or have an __index__ method"
  | .repetition t => "can't multiply sequence by non-int of type '" ++ t ++ "'"
  | .repetitionRange => "cannot fit 'int' into an index-sized integer"
  | .notNumeric t => "float() argument must be a string or a real number, not '" ++ t ++ "'"
  | .notANumeral w => "could not convert string to float: " ++ w
  | .integerRange => "int too large to convert to float"
  | .epoch cause => cause.message
  | .patternType t => "strftime() argument 1 must be str, not " ++ t
  | .jsonKey t => "keys must be str, int, float, bool or None, not " ++ t
  | .tooManyArguments f least most given =>
    f ++ "() takes " ++
      (if least = most then Text.numeral most
        else "from " ++ Text.numeral least ++ " to " ++ Text.numeral most) ++
      " positional argument" ++ (if least = most ∧ most = 1 then "" else "s") ++
      " but " ++ Text.numeral given ++ (if given = 1 then " was given" else " were given")
  | .missingArguments f names =>
    f ++ "() missing " ++ Text.numeral names.length ++ " required positional argument" ++
      (if names.length = 1 then ": " else "s: ") ++ enumerate names
  | .missingNamed f names =>
    f ++ "() missing " ++ Text.numeral names.length ++ " required keyword-only argument" ++
      (if names.length = 1 then ": " else "s: ") ++ enumerate names
  | .emptyMaximum => "max() arg is an empty sequence"
  | .noMaximum => "max expected at least 1 argument, got 0"
  | .joinedText => "sequence item 0: expected a bytes-like object, str found"
  | .raised text => text
  | .tooDeep => "maximum recursion depth exceeded"
  | .endless => ""
  | .unknownCharset n => "unknown encoding: " ++ n
  | .undecodable reason => reason
  | .missingMark => "UTF-16 stream does not start with BOM"
  | .unlisted n => n
  | .file cause => cause.message
  | .artifact _ => ""
  | .reservedName => "'none' is reserved for unescaped output"
  | .document _ | .settings _ => ""
  | .noSettings => "must contain a mapping"
  | .noHome => "Could not determine home directory."
  | .badPattern => "Invalid pattern: '**' can only be an entire path component"

end Gabarit

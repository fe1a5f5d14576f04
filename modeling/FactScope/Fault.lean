import FactScope.Text.Digits
import FactScope.Text.Quoted
import FactScope.Value

namespace FactScope

inductive Refusal where
  | missing
  | occupied
  | isDirectory
  | notDirectory
  | tooLong
  | nullByte
  | unencodable (before : Nat) (run : Text.Points)
deriving DecidableEq, Repr

/-- Surrogates in a text that leaves the program, with the number of code points before them. -/
def Text.Points.unencodableSentence (before : Nat) (run : Text.Points) : String :=
  "'utf-8' codec can't encode character" ++
    (match run with
      | [code] => " '" ++ escape code ++ "' in position " ++ toString before
      | run =>
          "s in position " ++ toString before ++ "-" ++ toString (before + run.length - 1)) ++
    ": surrogates not allowed"

namespace Refusal

def reason? : Refusal → Option (Nat × String)
  | missing => some (2, "No such file or directory")
  | occupied => some (17, "File exists")
  | isDirectory => some (21, "Is a directory")
  | notDirectory => some (20, "Not a directory")
  | tooLong => some (36, "File name too long")
  | nullByte => none
  | unencodable _ _ => none

end Refusal

inductive Fault where
  | noLowerCase (kind : Kind)
  | noBeginning (kind : Kind)
  | mixedBeginning
  | notJoinable (kind : Kind)
  | notHashable (kind : Kind)
  | notIterable (kind : Kind)
  | hiddenName (name : String)
  | notText (kind : Kind)
  | noHome
  | notNamed
  | notListed
  | notTextAt (index : Nat) (kind : Kind)
  | notCode (shown : String)
  | noOperation (owner name : String)
  | repeatedArgument (operation name : String)
  | unknownArgument (operation name : String)
  | missingArguments (operation : String) (names : List String)
  | unnamedArgument (operation : String)
  | notOperation (sort : String)
  | notName (kind : Kind)
  | notOrdered (symbol : String) (kind : Kind)
  | noKey (shown : String)
  | fixedField (name : String)
  | noField
  | unencodable (before : Nat) (run : Text.Points)
  | nullByte
  | longInteger
  | circular
  | notWritable (kind : Kind)
  | notKey (kind : Kind)
  | refused (refusal : Refusal) (path : Text.Points)
  | tooDeep
deriving DecidableEq, Repr

namespace Fault

def listing : List String → String
  | [] => ""
  | [name] => name
  | [first, second] => first ++ " and " ++ second
  | [first, second, third] => first ++ ", " ++ second ++ ", and " ++ third
  | name :: rest => name ++ ", " ++ listing rest

def message : Fault → String
  | noLowerCase kind => "'" ++ kind.label ++ "' object has no attribute 'lower'"
  | noBeginning kind => "'" ++ kind.label ++ "' object has no attribute 'startswith'"
  | mixedBeginning => "startswith first arg must be bytes or a tuple of bytes, not str"
  | notJoinable kind => "can only concatenate str (not \"" ++ kind.label ++ "\") to str"
  | notHashable kind => "unhashable type: '" ++ kind.label ++ "'"
  | notIterable kind => "'" ++ kind.label ++ "' object is not iterable"
  | hiddenName name => name
  | notText kind => "__str__ returned non-string (type " ++ kind.label ++ ")"
  | noHome => "Could not determine home directory."
  | notNamed => "keywords must be strings"
  | notListed => "can only join an iterable"
  | notTextAt index kind =>
      "sequence item " ++ toString index ++ ": expected str instance, " ++ kind.label ++ " found"
  | notCode shown => shown ++ " is not a valid ErrorCode"
  | noOperation owner name => owner ++ " has no attribute '" ++ name ++ "'"
  | repeatedArgument operation name =>
      operation ++ "() got multiple values for argument '" ++ name ++ "'"
  | unknownArgument operation name =>
      operation ++ "() got an unexpected keyword argument '" ++ name ++ "'"
  | missingArguments operation names =>
      operation ++ "() missing " ++ toString names.length ++ " required positional argument" ++
        (if names.length = 1 then "" else "s") ++ ": " ++
        listing (names.map fun name => "'" ++ name ++ "'")
  | unnamedArgument operation =>
      operation ++ "() takes 1 positional argument but 2 were given"
  | notOperation sort => "'" ++ sort ++ "' object is not callable"
  | notName kind => "attribute name must be string, not '" ++ kind.label ++ "'"
  | notOrdered symbol kind =>
      "'" ++ symbol ++ "' not supported between instances of '" ++ kind.label ++ "' and 'int'"
  | noKey shown => shown
  | fixedField name => "cannot assign to field " ++ Text.Quoted.quote name
  | unencodable before run => Text.Points.unencodableSentence before run
  | nullByte => "embedded null byte"
  | longInteger =>
      "Exceeds the limit (" ++ toString Text.Digits.greatestCount ++
        " digits) for integer string conversion; " ++
        "use sys.set_int_max_str_digits() to increase the limit"
  | circular => "Circular reference detected"
  | notWritable kind => "Object of type " ++ kind.word ++ " is not JSON serializable"
  | notKey kind => "keys must be str, int, float, bool or None, not " ++ kind.label
  | refused (.unencodable before run) _ => Text.Points.unencodableSentence before run
  | refused refusal path =>
      match refusal.reason? with
      | some (number, words) => "[Errno " ++ toString number ++ "] " ++ words ++ ": " ++ path.quote
      | none => "embedded null byte"
  | tooDeep => ""
  | noField => "super(type, obj): obj must be an instance or subtype of type"

/-- Faults of a value that lacks an operation; a property whose computation ends in one is looked
up as a fact instead. -/
def isMissing : Fault → Bool
  | noLowerCase _ => true
  | noBeginning _ => true
  | hiddenName _ => true
  | _ => false

end Fault

end FactScope

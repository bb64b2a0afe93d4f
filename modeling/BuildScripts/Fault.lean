import BuildScripts.Text.Quoted
import BuildScripts.Text.Utf8
import BuildScripts.Value.Shown

/-!
Causes of failure, and the texts that report them.
-/

namespace BuildScripts

open BuildScripts.Text

inductive Refusal
  | noEntry
  | alreadyThere
  | notDirectory
  | isDirectory
  | nameTooLong
  | tooManyLinks
  deriving DecidableEq, Repr

def Refusal.code : Refusal → Nat
  | .noEntry => 2
  | .alreadyThere => 17
  | .notDirectory => 20
  | .isDirectory => 21
  | .nameTooLong => 36
  | .tooManyLinks => 40

def Refusal.message : Refusal → String
  | .noEntry => "No such file or directory"
  | .alreadyThere => "File exists"
  | .notDirectory => "Not a directory"
  | .isDirectory => "Is a directory"
  | .nameTooLong => "File name too long"
  | .tooManyLinks => "Too many levels of symbolic links"

structure ExceptionClass where
  name : String
  above : List String
  deriving DecidableEq, Repr

namespace ExceptionClass

/-- The classes of which more is known than that they derive from `Exception`. -/
def known : List (String × List String) := [
  ("BaseException", []),
  ("Exception", ["BaseException"]),
  ("SystemExit", ["BaseException"]),
  ("KeyboardInterrupt", ["BaseException"]),
  ("GeneratorExit", ["BaseException"]),
  ("CancelledError", ["BaseException"]),
  ("BaseExceptionGroup", ["BaseException"]),
  ("ExceptionGroup", ["BaseExceptionGroup", "Exception", "BaseException"]),
  ("ModuleNotFoundError", ["ImportError", "Exception", "BaseException"]),
  ("ZipImportError", ["ImportError", "Exception", "BaseException"]),
  ("FrozenInstanceError", ["AttributeError", "Exception", "BaseException"]),
  ("KeyError", ["LookupError", "Exception", "BaseException"]),
  ("IndexError", ["LookupError", "Exception", "BaseException"]),
  ("CodecRegistryError", ["LookupError", "SystemError", "Exception", "BaseException"])]

def named (name : String) : ExceptionClass :=
  ⟨name, (known.lookup name).getD ["Exception", "BaseException"]⟩

instance : Coe String ExceptionClass := ⟨named⟩

end ExceptionClass

structure Raised where
  exception : ExceptionClass
  message : Option String
  deriving DecidableEq, Repr

namespace Raised

def kind (r : Raised) : String :=
  r.exception.name

def isA (name : String) (r : Raised) : Bool :=
  r.exception.name == name || r.exception.above.contains name

/-- Whether it is the failure of a part of the program; the others ask for the end of all of it. -/
def isException : Raised → Bool := isA "Exception"

def isImportError : Raised → Bool := isA "ImportError"

def isAttributeError : Raised → Bool := isA "AttributeError"

def isLookupError : Raised → Bool := isA "LookupError"

end Raised

def Raised.toText (r : Raised) : String :=
  match r.message with
  | none => ""
  | some m => if r.isA "KeyError" then quoted m else m

def Raised.quoted (r : Raised) : String :=
  r.kind ++ "(" ++ (r.message.map Text.quoted).getD "" ++ ")"

inductive Crumb
  | field (name : String)
  | index (n : Nat)
  deriving DecidableEq, Repr

structure Complaint where
  problem : String
  place : List Crumb
  input : Value
  deriving Repr

structure Unresolvable where
  token : String
  line : Option String
  reason : String
  deriving DecidableEq, Repr

def Unresolvable.message (u : Unresolvable) : String :=
  "cannot resolve reference " ++ quoted u.token ++
    (if u.reason.isEmpty then "" else ": " ++ u.reason)

structure Rejection where
  script : String
  token : String
  line : Option String
  lineNumber : Option Nat
  reason : String
  deriving DecidableEq, Repr

def Rejection.location (r : Rejection) : String :=
  match r.lineNumber with
  | some n => r.script ++ ":" ++ decimal n
  | none => r.script

def Rejection.message (r : Rejection) : String :=
  r.location ++ ": unresolvable reference " ++ quoted r.token ++
    (match r.line with
      | some l => " in line " ++ quoted l
      | none => "") ++
    (if r.reason.isEmpty then "" else " (" ++ r.reason ++ ")")

inductive Fault
  | unresolvable (u : Unresolvable)
  | rejected (r : Rejection)
  | refused (why : Refusal) (path : String)
  | destinationExists (path : String)
  | noDirectory (path : String)
  | sameFile (source destination : String)
  | nullByte
  | linkLoop (path : String)
  | notUtf8 (fault : Utf8.Fault)
  | notAscii (text : String) (first last : Nat)
  | unpaired
  | wrongType
  | noAttribute
  | tooDeep
  | badPattern (message : String)
  | notFloat (shown : String)
  | tooLargeForFloat
  | badValue (message : String)
  | badDocument
  | invalid (model : String) (complaints : List Complaint)
  | badJson (message : String)
  | badEncoding (message : String)
  | noByteOrder (encoding : String)
  | webApi (message : String) (status : Option Nat)
  | invalidUrl (message : String)
  | transport (kind message : String)
  | notImplemented
  | raised (r : Raised)
  | task (name : String) (cause : Fault)
  deriving Repr

namespace Fault

/-- What the program itself raises are failures of a part of it. -/
def isException : Fault → Bool
  | .raised r => r.isException
  | _ => true

def isImportError : Fault → Bool
  | .raised r => r.isImportError
  | _ => false

def isAttributeError : Fault → Bool
  | .raised r => r.isAttributeError
  | .noAttribute => true
  | _ => false

def isLookupError : Fault → Bool
  | .raised r => r.isLookupError
  | _ => false

def refusedMessage (why : Refusal) (path : String) : String :=
  "[Errno " ++ decimal why.code ++ "] " ++ why.message ++ ": " ++ quoted path

def notAsciiMessage (text : String) (first last : Nat) : String :=
  if first = last then
    let code := (text.toList[first]?.getD '?').toNat
    let shown :=
      if code < 0x100 then '\\' :: 'x' :: hexDigits 2 code
      else if code < 0x10000 then '\\' :: 'u' :: hexDigits 4 code
      else '\\' :: 'U' :: hexDigits 8 code
    "'ascii' codec can't encode character '" ++ String.ofList shown ++ "' in position " ++
      decimal first ++ ": ordinal not in range(128)"
  else
    "'ascii' codec can't encode characters in position " ++ decimal first ++ "-" ++ decimal last ++
      ": ordinal not in range(128)"

def tooManyDigits (count : Nat) : Fault :=
  .badValue ("Exceeds the limit (4300 digits) for integer string conversion: value has " ++
    decimal count ++ " digits; use sys.set_int_max_str_digits() to increase the limit")

def longNumber : Fault :=
  .badValue ("Exceeds the limit (4300 digits) for integer string conversion; " ++
    "use sys.set_int_max_str_digits() to increase the limit")

def message : Fault → String
  | .unresolvable u => u.message
  | .rejected r => r.message
  | .refused why path => refusedMessage why path
  | .destinationExists path => "destination file already exists: " ++ path
  | .noDirectory path => "Directory does not exist: " ++ path
  | .sameFile source destination => source ++ " and " ++ destination ++ " are the same file"
  | .nullByte => "embedded null byte"
  | .linkLoop path => "Symlink loop from " ++ quoted path
  | .notUtf8 fault => fault.message
  | .notAscii text first last => notAsciiMessage text first last
  | .unpaired => "surrogates not allowed"
  | .wrongType => ""
  | .noAttribute => ""
  | .tooDeep => "maximum recursion depth exceeded"
  | .badPattern message => message
  | .notFloat shown => "could not convert string to float: " ++ shown
  | .tooLargeForFloat => "int too large to convert to float"
  | .badValue message => message
  | .badDocument => ""
  | .invalid model complaints =>
    decimal complaints.length ++ " validation error" ++
      (if complaints.length = 1 then "" else "s") ++ " for " ++ model
  | .badJson message => message
  | .badEncoding message => message
  | .noByteOrder encoding => encoding ++ " stream does not start with BOM"
  | .webApi message _ => message
  | .invalidUrl message => message
  | .transport _ message => message
  | .notImplemented => ""
  | .raised r => r.toText
  | .task name cause => "task " ++ name ++ " failed: " ++ cause.message

end Fault

end BuildScripts

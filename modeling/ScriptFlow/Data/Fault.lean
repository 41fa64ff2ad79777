/-!
# Fault kinds

The errors a workflow, a script or a worker can report fall into a closed set of kinds. A kind has a
name, which is what an error answer shows, and a place in the family tree, which decides who
handles it:

* kinds of the *library family* (`FaultKind.isLibrary`) are the documented errors of this library;
* all other kinds report a broken value, a missing key, a wrong type and the like.

`FaultKind.mem_all` says that the listing used to read a kind back from its name is complete.
-/

namespace ScriptFlow

/-- The kinds of plain errors, each carried together with one message. -/
inductive FaultKind where
  /- errors of the library family -/
  | general
  | configuration
  | registration
  | canceled
  | alreadyResolved
  | codec
  | decode
  | script
  | scriptNotFound
  | attributeNotFound
  | plugin
  | duplicatePlugin
  | unexpectedCall
  | notRegistered
  /- errors of values and of the surroundings -/
  | badValue
  | jsonDecode
  | unicodeDecode
  | unicodeEncode
  | runtime
  | recursion
  | outOfRange
  | access
  | wrongType
  /-- a value of the wrong type, with no wording of its own -/
  | misuse
  | overflow
  | assertion
  | validation
  | interrupt
  /- errors of the durable engine -/
  | workflowAlreadyStarted
  deriving DecidableEq, Repr, Inhabited

namespace FaultKind

/-- All kinds, in the order of their declaration. -/
def all : List FaultKind :=
  [general, configuration, registration, canceled, alreadyResolved, codec, decode, script, scriptNotFound,
   attributeNotFound, plugin, duplicatePlugin, unexpectedCall, notRegistered, badValue, jsonDecode, unicodeDecode,
   unicodeEncode, runtime, recursion, outOfRange, access, wrongType, misuse, overflow, assertion, validation, interrupt,
   workflowAlreadyStarted]

/-- The name under which an error of this kind is reported. -/
def name : FaultKind → String
  | general => "StarworkerError"
  | configuration => "ConfigurationError"
  | registration => "RegistrationError"
  | canceled => "CanceledError"
  | alreadyResolved => "AlreadyResolvedError"
  | codec => "CodecError"
  | decode => "DecodeError"
  | script => "ScriptError"
  | scriptNotFound => "ScriptNotFoundError"
  | attributeNotFound => "AttributeNotFoundError"
  | plugin => "PluginError"
  | duplicatePlugin => "DuplicatePluginError"
  | unexpectedCall => "UnexpectedCallError"
  | notRegistered => "NotRegisteredError"
  | badValue => "ValueError"
  | jsonDecode => "JSONDecodeError"
  | unicodeDecode => "UnicodeDecodeError"
  | unicodeEncode => "UnicodeEncodeError"
  | runtime => "RuntimeError"
  | recursion => "RecursionError"
  | outOfRange => "IndexError"
  | access => "AttributeError"
  | wrongType | misuse => "TypeError"
  | overflow => "OverflowError"
  | assertion => "AssertionError"
  | validation => "ValidationError"
  | interrupt => "KeyboardInterrupt"
  | workflowAlreadyStarted => "WorkflowAlreadyStartedError"

/-- The kind with a given name. -/
def ofName? (n : String) : Option FaultKind := all.find? (·.name == n)

/-- Kinds of the library family: at the boundary of the durable engine they become failures that
name their kind, while every other error fails the task that met it. -/
def isLibrary : FaultKind → Bool
  | general | configuration | registration | canceled | alreadyResolved | codec | decode | script
  | scriptNotFound | attributeNotFound | plugin | duplicatePlugin | unexpectedCall | notRegistered => true
  | _ => false

/-- Errors of these kinds carry no documented wording: a report names the kind alone. -/
def isWordless : FaultKind → Bool
  | misuse | access | overflow | recursion | unicodeDecode | unicodeEncode | validation => true
  | _ => false

/-- Configuration errors end a start-up with a message instead of a crash. -/
def isConfiguration (k : FaultKind) : Bool := k == configuration

theorem mem_all (k : FaultKind) : k ∈ all := by cases k <;> decide

end FaultKind

end ScriptFlow

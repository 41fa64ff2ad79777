import ScriptFlow.Decimal.Read
import ScriptFlow.Data.Basic
import ScriptFlow.Data.Instant

/-!
# Text of data and of errors

`Data.expression` is the form in which a value stands inside a list or an error line, with texts between
quotes. `Data.text` is the form of a value on its own, in which a text is itself. `Fault.message` is the text
of an error: it is part of what users compare, so every wording is made in one place from the cause.
-/

namespace ScriptFlow

/-- Texts separated by commas. -/
def commaSeparated (parts : List String) : String := ", ".intercalate parts

mutual

/-- A value as it stands inside other values. -/
def Data.expression : Data → String
  | .null => "None"
  | .bool b => if b then "True" else "False"
  | .int n => toString n
  | .float x => Float.shortestText dataNumber x
  | .str s => Text.quoted s
  | .looseText cs => Text.quotedLoose cs
  | .bytes bs => Text.quotedBytes bs.toList
  | .list xs => "[" ++ commaSeparated (Data.expressions xs) ++ "]"
  | .tuple [x] => "(" ++ Data.expression x ++ ",)"
  | .tuple xs => "(" ++ commaSeparated (Data.expressions xs) ++ ")"
  | .dict es => "\x7b" ++ commaSeparated (Data.entryExpressions es) ++ "\x7d"
  | .span us => Span.expression us
  | .instant us => Instant.text us
  | .execution id runId => "WorkflowExecution(id=" ++ Text.quoted id ++ ", run_id=" ++ Text.quoted runId ++ ")"
  | .fault e => e.name ++ "(" ++ Text.quoted (Fault.message e) ++ ")"
  | .anything => "<ANY>"
  | .foreign _ text => text

def Data.expressions : List Data → List String
  | [] => []
  | x :: xs => Data.expression x :: Data.expressions xs

def Data.entryExpressions : List (Data × Data) → List String
  | [] => []
  | (k, v) :: es => (Data.expression k ++ ": " ++ Data.expression v) :: Data.entryExpressions es

/-- A value on its own. -/
def Data.text : Data → String
  | .str s => s
  | .span us => Span.text us
  | .fault e => Fault.message e
  | d => Data.expression d

def Data.texts : List Data → List String
  | [] => []
  | x :: xs => Data.text x :: Data.texts xs

/-- The text of an error. -/
def Fault.message : Fault → String
  | .error _ message => message
  | .missingKey key => Data.expression key
  | .custom reason [] => reason
  | .custom reason details => reason ++ ": " ++ commaSeparated (Data.texts details)
  | .invalid issues => toString issues.length ++ " validation errors"
  | .application message (some type) _ _ => if type == "" then message else type ++ ": " ++ message
  | .application message none _ _ => message
  | .engineCancelled message | .taskCancelled message => message
  | .activityFailed message _ | .childFailed message _ => message

end

/-- The text of an error in a report, if its wording is documented. -/
def Fault.wording : Fault → Option String
  | .error kind message => if kind.isWordless then none else some message
  | .invalid _ => none
  | e => some e.message

/-- The text of an error in a log line; an undocumented wording is left open. -/
def Fault.logText (e : Fault) : String := e.wording.getD "<message>"

/-- The text of a list of arguments. -/
def Data.listExpression (xs : List Data) : String := Data.expression (.list xs)

/-- A whole number from a text, or the error of a text that is none or holds too many digits. -/
def Text.readInt (s : String) : Except Fault Int :=
  let count := (s.toList.filter fun c => (Text.digitValue? c).isSome).length
  match Text.int? s with
  | none => .error (.error .badValue ("invalid literal for int() with base 10: " ++ Text.quoted s))
  | some n =>
    if Text.tooManyDigits s then
      .error (.error .badValue ("Exceeds the limit (4300 digits) for integer string conversion: value has " ++ toString count ++
        " digits; use sys.set_int_max_str_digits() to increase the limit"))
    else .ok n

end ScriptFlow

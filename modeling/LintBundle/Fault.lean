import LintBundle.Files.Path
import LintBundle.Value.Display

/-!
# Fault — what can go wrong, by cause

Every failure ends the whole run, so a fault carries the names it is about and nothing is left
half done.  The wording of each fault is `Fault.message`; `isReported` separates the faults that a
command reports on one line from those that end it.
-/

namespace LintBundle

/-- Why data is no configuration document. -/
inductive DocumentFault
  | notMapping (got : Kind)
  | rulesNotMapping (got : Kind)
  | extendsNotIterable (got : Kind)
  deriving DecidableEq, Repr

/-- The wording of a document fault. -/
def DocumentFault.message : DocumentFault → String
  | notMapping got => "config must be a mapping, got " ++ got.name
  | rulesNotMapping got => "config 'rules' must be a mapping, got " ++ got.name
  | extendsNotIterable got => "'" ++ got.qualifiedName ++ "' object is not iterable"

/-- Why a value has no JSON form. -/
inductive JsonFault
  | badKey (kind : Kind)
  | badValue (kind : Kind)
  | circular
  | numberTooLong
  deriving DecidableEq, Repr

/-- The wording of a JSON fault. -/
def JsonFault.message : JsonFault → String
  | badKey kind => "keys must be str, int, float, bool or None, not " ++ kind.name
  | badValue kind => "Object of type " ++ kind.name ++ " is not JSON serializable"
  | circular => "Circular reference detected"
  | numberTooLong => "Exceeds the limit (4300 digits) for integer string conversion; "
      ++ "use sys.set_int_max_str_digits() to increase the limit"

/-- Why a text is not the data it was declared to be, in files and numerals. -/
inductive TextFault
  /-- The text breaks the grammar. -/
  | malformed
  /-- A numeral or a date that denotes nothing. -/
  | notANumber
  /-- A truth value spelled in no known way. -/
  | unknownWord
  /-- A numeral without a single character. -/
  | emptyNumeral
  /-- A text declared a date that does not look like one. -/
  | notADate
  /-- A date given by a mapping, which has a text only as its value. -/
  | notDateText
  /-- A character code or a weight that does not fit a machine number. -/
  | tooLarge
  /-- Collections lie in one another without an end in sight. -/
  | tooDeep
  deriving DecidableEq, Repr

/-- The wording of a text fault. -/
def TextFault.message : TextFault → String
  | malformed => "the text breaks the grammar"
  | notANumber => "the text is no number or date"
  | unknownWord => "the text is no truth value"
  | emptyNumeral => "the numeral is empty"
  | notADate => "the text does not look like a date"
  | notDateText => "expected string or bytes-like object, got 'list'"
  | tooLarge => "the number is too large"
  | tooDeep => "the text is nested too deep"

/-- A failure. -/
inductive Fault
  /-- An entry of `extends` that is no reference. -/
  | invalidExtends (reference : Value)
  | configNotFound (config package : Text)
  | malformedConfig (config package reason : Text)
  /-- A chain of references whose last one names a config that is being expanded already. -/
  | circularExtends (chain : List Text)
  /-- More configs follow each other than the loader said it serves. -/
  | tooDeep
  | illegalRuleExport (rule specifier : Text)
  | invalidRuleName (id : Value)
  | invalidRuleValue (id reason : Text)
  /-- A specifier that leads nowhere. -/
  | notFound (specifier : Text) (reason : Option Text)
  | configFile (path reason : Text)
  | document (cause : DocumentFault)
  | json (cause : JsonFault)
  | text (cause : TextFault)
  /-- A file that is not encoded in UTF-8. -/
  | notUnicode
  /-- A text to be written that holds a half of a surrogate pair, which has no encoding in UTF-8. -/
  | notWritable
  /-- A table without a module of this specifier. -/
  | noModule (specifier : Text)
  /-- A failure of a caller's own, which may be a failed look-up. -/
  | foreign (kind text : Text) (isLookup : Bool)
  /-- A path that cannot be looked at or written to. -/
  | access (cause : PathFault)
  /-- A whole number with more digits than may be written. -/
  | numberTooLong
  /-- Console text closes a style that is not open, or opens an action it does not spell. -/
  | badMarkup
  /-- Console text names a colour by numbers, one of which is missing. -/
  | badColor
  deriving Repr

namespace Fault

/-- The failed look-ups. -/
def isLookup : Fault → Bool
  | noModule _ => true
  | foreign _ _ isLookup => isLookup
  | _ => false

/-- **The wording of a fault.** -/
def message : Fault → Text
  | invalidExtends reference => "invalid config name <" ++ reference.display ++ ">"
  | configNotFound config package =>
    "cannot resolve config <" ++ config ++ "> in <" ++ package ++ ">"
  | malformedConfig config package reason =>
    "malformed config <" ++ config ++ "> in <" ++ package ++ ">: " ++ reason
  | circularExtends chain => "circular extends: " ++ Text.intercalate " -> " chain
  | tooDeep => "extends too deep"
  | illegalRuleExport rule specifier =>
    "failed to bundle rule <" ++ rule ++ "> from <" ++ specifier
      ++ ">: illegal rule export (expected path reference)"
  | invalidRuleName id => "invalid rule name <" ++ id.display ++ ">"
  | invalidRuleValue id reason => "invalid value for rule <" ++ id ++ ">: " ++ reason
  | notFound specifier reason =>
    let reason := reason.getD ""
    "cannot resolve <" ++ specifier ++ ">" ++ (if reason = "" then "" else ": " ++ reason : Text)
  | configFile path reason => "invalid config file " ++ path ++ ": " ++ reason
  | document cause => cause.message
  | json cause => cause.message
  | text cause => cause.message
  | notUnicode => "the file is not encoded in UTF-8"
  | notWritable => "the text has no encoding in UTF-8"
  | noModule specifier => "no module <" ++ specifier ++ "> in the table"
  | foreign _ words _ => words
  | access cause => cause.message
  | numberTooLong => JsonFault.numberTooLong.message
  | badMarkup => "the text closes a style that is not open"
  | badColor => "the colour is not given by three numbers"

/-- A fault whose message shows a value; where the value cannot be shown, that is the fault. -/
def showing (v : Value) (fault : Fault) : Fault := if v.hasLongNumber then .numberTooLong else fault

/-- The fault of an entry of `extends` that is no reference. -/
def ofReference (reference : Value) : Fault := showing reference (.invalidExtends reference)

/-- The fault of a rule id that is no rule's name. -/
def ofRuleId (id : Value) : Fault := showing id (.invalidRuleName id)

/-- The faults of configurations, plugins and loaders, which a command reports on one line. -/
def isReported : Fault → Bool
  | invalidExtends _ | configNotFound .. | malformedConfig .. | circularExtends _ | tooDeep
  | illegalRuleExport .. | invalidRuleName _ | invalidRuleValue .. | notFound .. | configFile .. =>
    true
  | _ => false

end Fault

end LintBundle

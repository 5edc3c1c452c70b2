import QueryGateway.Failure.Basic
import QueryGateway.Text.Blank

/-!
# How a failure reads

The message of a failure, and the report of a failure with everything that led to it: the oldest
first, each under a headline if it was ever raised, and between two of them a sentence that says how
they hang together. A cause hides the context, and a failure can hide its context by itself.
-/

namespace QueryGateway

/-- The places that a failure of the system is about; the argument between the two says nothing. -/
def systemPlaces : List Value → Text
  | [] => []
  | .null :: _ => []
  | [a, _, .null] => ": " ++ a.inner
  | [a, _, b] => ": " ++ a.inner ++ " -> " ++ b.inner
  | a :: _ => ": " ++ a.inner

def ForeignClass.message (cls : ForeignClass) (args : List Value) : Text :=
  match cls, args with
  | .silent .., _ => []
  | .mute .., _ => "<exception str() failed>"
  | .missingKey, [a] => a.inner
  | _, [] => []
  | _, [a] => a.shown
  | .system _, number :: wording :: places =>
    if isNumbered args then
      ("[Errno " : Text) ++ number.shown ++ "] " ++ wording.shown ++ systemPlaces places
    else (Value.tuple args).inner
  | _, args => (Value.tuple args).inner

namespace Failure

def message (f : Failure) : Text :=
  match f.origin with
  | .own f => f.message
  | .foreign cls args _ => cls.message args
  | .rejected r => Text.join "\n" r.lines

def qualifiedName (f : Failure) : Text :=
  match f.origin with
  | .own f => f.cls.qualifiedName
  | .foreign cls _ _ => cls.qualifiedName
  | .rejected _ => "pydantic_core._pydantic_core.ValidationError"

def causeSentence : Text :=
  "\nThe above exception was the direct cause of the following exception:\n\n"

def contextSentence : Text :=
  "\nDuring handling of the above exception, another exception occurred:\n\n"

def ownReport (f : Failure) : Text :=
  (if f.raised then "Traceback (most recent call last):\n" else "") ++ f.qualifiedName ++
    (if f.message = [] then [] else (": " : Text) ++ f.message) ++ "\n"

def report : Failure → Text
  | .make o (some cause) context s r =>
    report cause ++ causeSentence ++ ownReport (.make o (some cause) context s r)
  | .make o none (some context) false r =>
    report context ++ contextSentence ++ ownReport (.make o none (some context) false r)
  | .make o none context s r => ownReport (.make o none context s r)

end Failure

/-- The lines of a report that are not empty and not indented. -/
def Text.reportLines (t : Text) : List Text :=
  (Text.pieces '\n' t).filter fun line =>
    match line with
    | [] => false
    | c :: _ => !c.isBlank

end QueryGateway

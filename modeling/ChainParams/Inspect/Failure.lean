import ChainParams.Error
import ChainParams.Text.Column

/-!
# Failures

What the command line tells when a command fails: a message, and below it the causes, each on lines
of its own and with a number if there are several.
-/

namespace ChainParams.Inspect

structure Failure where
  message : String
  /-- The causes, each of the one before it. -/
  causes : List String
  deriving DecidableEq, Repr

namespace Failure

def ofError (error : Error) : Failure :=
  ⟨error.message, error.cause?.toList⟩

/-- An error as the cause of something else. -/
def within (message : String) (error : Error) : Failure :=
  ⟨message, error.message :: error.cause?.toList⟩

/-- Text with a margin before its first line and another one before the others. -/
def indented (first others : String) (text : String) : String :=
  first ++ String.ofList (text.toList.flatMap fun c ↦ if c = '\n' then c :: others.toList else [c])
    ++ "\n"

/-- One cause after the other, with ascending numbers. -/
def numbered (number : Nat) : List String → String
  | [] => ""
  | cause :: rest =>
    indented (Text.Column.right 5 (Nat.repr number) ++ ": ") "       " cause
      ++ numbered (number + 1) rest

def causesText : List String → String
  | [] => ""
  | [cause] => "\nCaused by:\n" ++ indented "    " "    " cause
  | causes => "\nCaused by:\n" ++ numbered 0 causes

def text (failure : Failure) : String :=
  s!"Error: {failure.message}\n" ++ causesText failure.causes

end Failure

end ChainParams.Inspect

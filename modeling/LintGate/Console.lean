/-
What the gate says on the console.

A line has a level. Information and good news go to the standard output, warnings
and errors to the standard error; an alarm is a banner of several lines. Colour is
added when a line is shown, not when it is said.
-/
import LintGate.Text.Lines

set_option autoImplicit false

namespace LintGate.Console

/-- How urgent a line is. -/
inductive Level where
  | info
  | status
  | warning
  | error
deriving DecidableEq, Repr

/-- Something said: a line, or a banner with a title and a body. -/
inductive Message where
  | line (level : Level) (text : String)
  | alarm (title body : String)
deriving DecidableEq, Repr

/-- Where text goes. -/
inductive Stream where
  | out
  | err
deriving DecidableEq, Repr

/-! ## Colour -/

/-- The control sequence that ends a colour. -/
def resetCode : String := "\x1b[0m"

/-- Text in a colour. A reset inside the text is followed by the colour again. -/
def paint (code text : String) : String :=
  let start := "\x1b[" ++ code ++ "m"
  start ++ (resetCode ++ start).intercalate (text.splitOn resetCode) ++ resetCode

/-- Text in a colour, if colours are on. -/
def paintIf (color : Bool) (code text : String) : String := if color then paint code text else text

/-- The rule that frames a banner. -/
def rule : String := String.ofList (List.replicate 72 '=')

/-! ## Showing messages -/

/-- The stream of a level. -/
def Level.stream : Level → Stream
  | info => .out
  | status => .out
  | warning => .err
  | error => .err

/-- A line as it is shown. -/
def Level.paint (color : Bool) (text : String) : Level → String
  | info => text
  | status => paintIf color "32" text
  | warning => paintIf color "33" text
  | error => paintIf color "31" text

/-- The text that a message adds to a stream. -/
def Message.shownOn (color : Bool) (stream : Stream) : Message → String
  | line level text => if level.stream = stream then level.paint color text ++ "\n" else ""
  | alarm title body =>
    if stream = .err then
      let bold (text : String) : String := paintIf color "1;31" text ++ "\n"
      bold rule ++ bold title ++ bold rule
        ++ String.join ((Text.shownLines body).map fun l => paintIf color "31" l ++ "\n")
        ++ bold rule
    else ""

/-- The text that messages leave on a stream. -/
def shown (color : Bool) (stream : Stream) (messages : List Message) : String :=
  String.join (messages.map (·.shownOn color stream))

end LintGate.Console

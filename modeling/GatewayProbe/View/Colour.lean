/-
Coloured text in a terminal.

A style is switched on before a text and everything is switched off after it. Where the text itself
switches everything off, the style is switched on again.

* `Ink` — whether colours are used at all, `Ink.chosen` as surroundings and user want it;
* `Ink.paint` — a text in a style.
-/
import GatewayProbe.Folder
import GatewayProbe.Text.Ascii

namespace GatewayProbe

/-- How a text is shown. -/
inductive Style where
  | green
  | red
  | yellow
  | cyan
  | blue
  | dimmed
  | bold
  | boldGreen
  | boldRed
  deriving DecidableEq, Repr

/-- The codes that switch a style on. -/
def Style.codes : Style → String
  | .green => "32"
  | .red => "31"
  | .yellow => "33"
  | .cyan => "36"
  | .blue => "34"
  | .dimmed => "2"
  | .bold => "1"
  | .boldGreen => "1;32"
  | .boldRed => "1;31"

/-- Whether colours are used. -/
structure Ink where
  isColoured : Bool := false

namespace Ink

/-- The variables that tell whether colours are wanted. -/
def variableNames : List String := ["CLICOLOR", "CLICOLOR_FORCE", "NO_COLOR"]

/-- Uses colours unless they are refused: in a terminal by default, elsewhere where they are
forced. -/
def chosen (isRefused isTerminal : Bool) (environment : Variables) : Ink :=
  let isOn (name : String) : Option Bool := (environment name).map (· ≠ "0")
  ⟨!isRefused && ((isOn "CLICOLOR_FORCE").getD false ||
    ((environment "NO_COLOR").isNone && (isOn "CLICOLOR").getD true && isTerminal))⟩

/-- What begins each code. -/
def escape : List Char := ['\x1b', '[']

/-- The code that switches everything off. -/
def off : List Char := escape ++ ['0', 'm']

/-- Puts `on` after each code in a text that switches everything off. -/
def reopen (on : List Char) : List Char → List Char
  | '\x1b' :: '[' :: '0' :: 'm' :: rest => off ++ on ++ reopen on rest
  | c :: rest => c :: reopen on rest
  | [] => []

/-- A text in a style. -/
def paint (ink : Ink) (style : Style) (s : String) : String :=
  if ink.isColoured then
    let on := escape ++ style.codes.toList ++ ['m']
    String.ofList (on ++ reopen on s.toList ++ off)
  else s

end Ink
end GatewayProbe

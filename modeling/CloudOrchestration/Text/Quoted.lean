import CloudOrchestration.Text.Blank
import CloudOrchestration.Text.Combining
import CloudOrchestration.Text.Printable
/-!
# Quoted text in messages

Messages quote a text so that every character can be seen: the quote, the
backslash and the commonest controls are written with a letter, and what is
unprintable or would join the character before it by its number. A list
stands between brackets.
-/

namespace CloudOrchestration

namespace Text

/-- The number of a character in hexadecimal, between braces. -/
def numbered (c : Char) : List Char :=
  '\\' :: 'u' :: '\x7b' :: Nat.toDigits 16 c.toNat ++ ['\x7d']

/-- A character as it stands between quotes. -/
def quotedChar (c : Char) : List Char :=
  match c with
  | '\x00' => ['\\', '0']
  | '\t' => ['\\', 't']
  | '\r' => ['\\', 'r']
  | '\n' => ['\\', 'n']
  | '\\' => ['\\', '\\']
  | '"' => ['\\', '"']
  | c =>
    if inRanges combiningRanges c.toNat || inRanges unprintableRanges c.toNat then numbered c
    else [c]

/-- A text between quotes. -/
def quoted (s : String) : String :=
  String.ofList ('"' :: s.toList.flatMap quotedChar ++ ['"'])

/-- A list of texts between brackets. -/
def quotedList (ss : List String) : String :=
  "[" ++ ", ".intercalate (ss.map quoted) ++ "]"

end Text

end CloudOrchestration

import StudySession.Text.Unprintable

/-!
# Quoted text for people

`Text.quoted` writes a text between double quotes: quotes, backslashes and the common control
characters as escapes of two characters, and whatever does not print alone by its code point.
-/

namespace StudySession

namespace Text

def quotedChar (c : Char) : String :=
  if c = '"' then "\\\""
  else if c = '\\' then "\\\\"
  else if c = '\n' then "\\n"
  else if c = '\r' then "\\r"
  else if c = '\t' then "\\t"
  else if c.toNat = 0 then "\\0"
  else if isUnprintable c then
    "\\u\x7b" ++ String.ofList (Nat.toDigits 16 c.toNat) ++ "\x7d"
  else String.singleton c

def quoted (s : String) : String := "\"" ++ s.toList.foldl (fun t c => t ++ quotedChar c) "" ++ "\""

end Text

end StudySession

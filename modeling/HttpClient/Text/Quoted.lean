/-
# Texts in descriptions

The description of a value is meant for a reader of logs, so a text in it stands
between quotes and shows what it holds: quotes and backslashes behind a
backslash, tabs and line ends by their letters, and a character that would not
show by its number.

The description of a record is its name and its fields, the last of them perhaps
left out.
-/
import HttpClient.Encoding.Hex
import HttpClient.Text.Ascii
import HttpClient.Text.Hidden

namespace HttpClient.Text

/-- A character as it stands between quotes. -/
def quotedChar (c : Char) : List Char :=
  if c = '"' then ['\\', '"']
  else if c = '\\' then ['\\', '\\']
  else if c = '\t' then ['\\', 't']
  else if c = '\n' then ['\\', 'n']
  else if c = '\r' then ['\\', 'r']
  else if c.toNat = 0 then ['\\', '0']
  else if isHidden c then "\\u\x7b".toList ++ (Hex.ofNat c.toNat).toList ++ ['\x7d']
  else [c]

def quoted (s : String) : String := "\"" ++ String.ofList (s.toList.flatMap quotedChar) ++ "\""

def quotedList (xs : List String) : String := "[" ++ join ", " (xs.map quoted) ++ "]"

/-- A name with the parts that belong to it. -/
def item (name : String) (parts : List String) : String :=
  name ++ "(" ++ join ", " parts ++ ")"

/-- The fields of a record with their names. -/
def fieldTexts (fields : List (String × String)) : List String :=
  fields.map fun (name, value) => name ++ ": " ++ value

/-- A record with all its fields. -/
def record (name : String) (fields : List (String × String)) : String :=
  name ++ " \x7b " ++ join ", " (fieldTexts fields) ++ " \x7d"

/-- A record that has more fields than are shown. -/
def openRecord (name : String) (fields : List (String × String)) : String :=
  name ++ " \x7b " ++ join ", " (fieldTexts fields ++ [".."]) ++ " \x7d"

end HttpClient.Text

import EventDelivery.Character.Property
/-!
# Quoted texts in messages

Messages show a given text between quotes; characters that would not be seen, or would change the
look of their neighbours, are named by their code.
-/

namespace EventDelivery.Text

/-- The categories of characters that have no look of their own. -/
private def hiddenCategories : List Category :=
  [.control, .format, .surrogate, .privateUse, .unassigned, .lineSeparator, .paragraphSeparator,
    .spaceSeparator]

/-- Whether a character is named by its code: all without a look of their own but the space, and
those that are a part of the one before. -/
private def isHidden (c : Char) : Bool :=
  (c != ' ' && hiddenCategories.contains (Category.of c)) || CharProperty.graphemeExtend.holds c

/-- The characters that stand for one character of a quoted text. -/
private def showChar (c : Char) : List Char :=
  if c = '"' then ['\\', '"']
  else if c = '\\' then ['\\', '\\']
  else if c = '\n' then ['\\', 'n']
  else if c = '\r' then ['\\', 'r']
  else if c = '\t' then ['\\', 't']
  else if c = '\x00' then ['\\', '0']
  else if isHidden c then '\\' :: 'u' :: '{' :: (Nat.toDigits 16 c.toNat ++ ['}'])
  else [c]

/-- A text between quotes. -/
def quoted (s : String) : String :=
  String.ofList ('"' :: (s.toList.flatMap showChar ++ ['"']))

end EventDelivery.Text

import DemandRide.Text.Hex

/-! Texts that may reach a terminal. A terminal obeys certain control characters instead of
showing them, so these are replaced by their codes; every other character, blanks and line
feeds among them, stands for itself. A backslash is not doubled: the result is to be read by
people and is not meant to be undone. -/
namespace DemandRide.Text

/-- Whether a terminal would obey a character: bell, backspace, form feed, escape, delete and
the controls from U+0080 to U+009F. -/
def steersTerminal (c : Char) : Bool :=
  c == '\x07' || c == '\x08' || c == '\x0c' || c == '\x1b' || c == '\x7f' ||
    decide (0x80 ≤ c.toNat ∧ c.toNat ≤ 0x9f)

/-- A character as it is shown. -/
def shownChar (c : Char) : List Char :=
  if steersTerminal c then
    if c.toNat < 0x80 then ['\\', 'x'] ++ hexPair c.toNat
    else ['\\', 'u', '{'] ++ hexPair c.toNat ++ ['}']
  else [c]

/-- A text as it is shown. -/
def shown (s : String) : String := String.ofList (s.toList.flatMap shownChar)

end DemandRide.Text

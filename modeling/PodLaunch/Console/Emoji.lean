import PodLaunch.Console.Emoji.Names
import PodLaunch.Text.Blank
import PodLaunch.Text.Lines
import PodLaunch.Text.Lower

/-!
# Emoji by name

The name of an emoji between two colons stands for its sign, as in `:rocket:`. Behind the name, a
word may ask for the sign as a text or as a picture. What is no name stays as it is.
-/

namespace PodLaunch.Console

open Text

/-- The sign behind a name among names and signs. -/
def signBehind? (name : List Char) : List (List Char) → Option (List Char)
  | word :: sign :: rest => if word = name then some sign else signBehind? name rest
  | _ => none

/-- The names and signs of emoji, in groups. -/
def emojiWords : List (List (List Char)) :=
  emojiNames.map fun line => splitOnChar ' ' line.toList

/-- The sign of the emoji with a name. -/
def emoji? (name : List Char) : Option (List Char) :=
  emojiWords.findSome? (signBehind? name)

/-- The words behind a name that ask for a form of the sign, with the character that selects it. -/
def forms : List (String × Char) :=
  [("-emoji", '\ufe0f'), ("-text", '\ufe0e')]

/-- What stands between two colons, as a name and the character that selects a form, if one is asked
for. -/
def nameAndForm (inner : List Char) : List Char × List Char :=
  match forms.find? fun form => form.1.toList.isSuffixOf inner with
  | some form => (inner.take (inner.length - form.1.length), [form.2])
  | none => (inner, [])

/-- What is shown for a text between two colons. -/
def shownBetween (inner : List Char) : List Char :=
  let (name, form) := nameAndForm inner
  match emoji? (lowerText (String.ofList name)).toList with
  | some sign => sign ++ form
  | none => ':' :: inner ++ [':']

/-- A text with signs in the place of the names of emoji, behind a colon and what stands behind it
(last character first) if one is open. A blank ends what a colon has opened. -/
def replaceFrom : Option (List Char) → List Char → List Char
  | none, [] => []
  | some inner, [] => ':' :: inner.reverse
  | none, c :: rest => if c = ':' then replaceFrom (some []) rest else c :: replaceFrom none rest
  | some inner, c :: rest =>
    if c = ':' then shownBetween inner.reverse ++ replaceFrom none rest
    else if isBlank c then ':' :: inner.reverse ++ c :: replaceFrom none rest
    else replaceFrom (some (c :: inner)) rest

/-- A text with signs in the place of the names of emoji. -/
def replaceEmoji (s : List Char) : List Char :=
  replaceFrom none s

end PodLaunch.Console
